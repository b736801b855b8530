import RequestScript.Environment.Forest
import RequestScript.Proofs.Bindings
import RequestScript.Proofs.Environment

namespace RequestScript

/-- What is done through handles. -/
inductive ScopeCall (α : Type) where
  | new
  | enclosed (handle : Handle)
  | clone (handle : Handle)
  | define (handle : Handle) (name : String) (value : α)
  | assign (handle : Handle) (name : String) (value : α)

namespace ScopeCall

variable {α : Type}

/-- The handle that a call is made on. -/
def handle? : ScopeCall α → Option Handle
  | new => none
  | enclosed handle => some handle
  | clone handle => some handle
  | define handle _ _ => some handle
  | assign handle _ _ => some handle

def Answer : ScopeCall α → Type
  | new => Handle
  | enclosed _ => Handle
  | clone _ => Handle
  | define _ _ _ => Unit
  | assign _ _ _ => Except UndefinedName Unit

end ScopeCall

namespace Forest

variable {α : Type} {forest : Forest α}

/-- The forest after a call, and the answer. A copy of a handle is the handle itself. -/
def perform (forest : Forest α) : (call : ScopeCall α) → Forest α × call.Answer
  | .new => forest.addRoot
  | .enclosed handle => forest.enclose handle
  | .clone handle => (forest, handle)
  | .define handle name value => (forest.define handle name value, ())
  | .assign handle name value =>
    match forest.assign handle name value with
    | .ok after => (after, .ok ())
    | .error error => (forest, .error error)

/-- Whether a handle has been given out. -/
def Holds (forest : Forest α) (handle : Handle) : Prop :=
  handle < forest.scopes.size

/-- The forests that calls on handles which have been given out make of the empty one. -/
inductive Reached : Forest α → Prop
  | empty : Reached empty
  | call {forest : Forest α} (hr : Reached forest) (call : ScopeCall α)
      (hv : ∀ handle ∈ call.handle?, forest.Holds handle) : Reached (forest.perform call).1

/-- The scope that a name is found in from a handle: the scope of the handle itself if that binds
the name, or else the one it is found in from the parent. -/
inductive Finds (forest : Forest α) (name : String) : Handle → Handle → Prop
  | here {handle : Handle} (hb : (forest.bindings handle).contains name = true) :
      Finds forest name handle handle
  | above {handle parent scope : Handle} (hb : (forest.bindings handle).contains name = false)
      (hp : forest.parent? handle = some parent) (hf : Finds forest name parent scope) :
      Finds forest name handle scope

/-- A scope comes after the scope around it. -/
def Ordered (forest : Forest α) : Prop :=
  ∀ handle parent, forest.parent? handle = some parent → parent < handle

theorem scopes_getElem?_define (forest : Forest α) (handle : Handle) (name : String) (value : α)
    (other : Handle) : (forest.define handle name value).scopes[other]? =
      if handle = other then forest.scopes[other]?.map fun scope =>
        { scope with bindings := scope.bindings.insert name value }
      else forest.scopes[other]? :=
  Array.getElem?_modify

theorem parent?_define (forest : Forest α) (handle : Handle) (name : String) (value : α)
    (other : Handle) : (forest.define handle name value).parent? other = forest.parent? other := by
  unfold parent?
  rw [scopes_getElem?_define]
  split
  · cases forest.scopes[other]? with
    | none => rfl
    | some scope => rfl
  · rfl

theorem bindings_define_self {handle : Handle} (hv : forest.Holds handle) (name : String)
    (value : α) : (forest.define handle name value).bindings handle =
      (forest.bindings handle).insert name value := by
  have hs : forest.scopes[handle]? = some forest.scopes[handle] := Array.getElem?_eq_getElem hv
  unfold bindings
  rw [scopes_getElem?_define, if_pos rfl, hs]
  rfl

theorem bindings_define_of_ne {handle other : Handle} (h : handle ≠ other) (name : String)
    (value : α) : (forest.define handle name value).bindings other = forest.bindings other := by
  unfold bindings
  rw [scopes_getElem?_define, if_neg h]

theorem scopes_getElem?_add (forest : Forest α) (parent : Option Handle) (other : Handle) :
    (forest.add parent).1.scopes[other]? =
      if other = forest.scopes.size then some ⟨parent, ∅⟩ else forest.scopes[other]? :=
  Array.getElem?_push

theorem bindings_of_not_holds {handle : Handle} (h : ¬ forest.Holds handle) :
    forest.bindings handle = ∅ := by
  have hs : forest.scopes[handle]? = none := Array.getElem?_eq_none (Nat.not_lt.mp h)
  unfold bindings
  rw [hs]
  rfl

theorem bindings_add (forest : Forest α) (parent : Option Handle) (other : Handle) :
    (forest.add parent).1.bindings other = forest.bindings other := by
  by_cases h : other = forest.scopes.size
  · have hn : ¬ forest.Holds other := Nat.not_lt.mpr (Nat.le_of_eq h.symm)
    rw [bindings_of_not_holds hn]
    unfold bindings
    rw [scopes_getElem?_add, if_pos h]
    rfl
  · unfold bindings
    rw [scopes_getElem?_add, if_neg h]

theorem parent?_add {parent : Option Handle} {other : Handle} {found : Handle}
    (h : (forest.add parent).1.parent? other = some found) :
    forest.parent? other = some found ∨ (other = forest.scopes.size ∧ parent = some found) := by
  unfold parent? at h ⊢
  rw [scopes_getElem?_add] at h
  split at h
  next ho => exact Or.inr ⟨ho, h⟩
  next => exact Or.inl h

theorem binder?_holds {handle scope : Handle} {name : String}
    (h : forest.binder? handle name = some scope) :
    (forest.bindings scope).contains name = true ∧ forest.Holds scope := by
  have hb : (forest.bindings scope).contains name = true := by
    simpa using List.find?_some h
  refine ⟨hb, ?_⟩
  by_cases hv : forest.Holds scope
  · exact hv
  · rw [bindings_of_not_holds hv] at hb
    cases hb

theorem ordered_define (h : forest.Ordered) (handle : Handle) (name : String) (value : α) :
    (forest.define handle name value).Ordered := by
  intro other parent hp
  rw [parent?_define] at hp
  exact h other parent hp

theorem ordered_add (h : forest.Ordered) {parent : Option Handle}
    (hp : ∀ found ∈ parent, forest.Holds found) : (forest.add parent).1.Ordered := by
  intro other found hf
  rcases parent?_add hf with ho | ⟨rfl, he⟩
  · exact h other found ho
  · exact hp found he

theorem perform_assign_of_binder? {handle scope : Handle} {name : String} (value : α)
    (h : forest.binder? handle name = some scope) :
    forest.perform (.assign handle name value) = (forest.define scope name value, .ok ()) := by
  simp only [perform, assign, h]

theorem perform_assign_of_not_bound {handle : Handle} {name : String} (value : α)
    (h : forest.binder? handle name = none) :
    forest.perform (.assign handle name value) = (forest, .error ⟨name⟩) := by
  simp only [perform, assign, h]

/-- Each call keeps scopes after the scopes around them. -/
theorem ordered_perform (h : forest.Ordered) {call : ScopeCall α}
    (hv : ∀ handle ∈ call.handle?, forest.Holds handle) : (forest.perform call).1.Ordered := by
  cases call with
  | new => exact ordered_add h fun found hf => by cases hf
  | enclosed handle => exact ordered_add h fun found hf => hv found hf
  | clone handle => exact h
  | define handle name value => exact ordered_define h handle name value
  | assign handle name value =>
    cases hb : forest.binder? handle name with
    | none =>
      rw [perform_assign_of_not_bound value hb]
      exact h
    | some scope =>
      rw [perform_assign_of_binder? value hb]
      exact ordered_define h scope name value

theorem Reached.ordered (h : Reached forest) : forest.Ordered := by
  induction h with
  | empty => exact fun handle parent hp => by cases hp
  | call _ call hv ih => exact ordered_perform ih hv

theorem chain_of_parent? {handle parent : Handle} (h : forest.Ordered)
    (hp : forest.parent? handle = some parent) :
    forest.chain handle = handle :: forest.chain parent := by
  rw [chain, hp]
  exact if_pos (h handle parent hp)

theorem chain_of_root {handle : Handle} (hp : forest.parent? handle = none) :
    forest.chain handle = [handle] := by
  rw [chain, hp]

theorem chain_eq_cons (forest : Forest α) (handle : Handle) :
    forest.chain handle = handle :: (forest.chain handle).tail := by
  rw [chain]
  split
  · rfl
  · split
    · rfl
    · rfl

theorem binder?_of_contains {handle : Handle} {name : String}
    (hb : (forest.bindings handle).contains name = true) :
    forest.binder? handle name = some handle := by
  rw [binder?, chain_eq_cons, List.find?_cons, hb]

theorem binder?_of_parent? {handle parent : Handle} {name : String} (h : forest.Ordered)
    (hb : (forest.bindings handle).contains name = false)
    (hp : forest.parent? handle = some parent) :
    forest.binder? handle name = forest.binder? parent name := by
  rw [binder?, chain_of_parent? h hp, List.find?_cons, hb]
  rfl

/-- The walk along the chain finds the nearest scope that binds a name. -/
theorem binder?_eq_some_iff (h : forest.Ordered) {handle scope : Handle} {name : String} :
    forest.binder? handle name = some scope ↔ forest.Finds name handle scope := by
  constructor
  · intro hs
    induction handle using Nat.strongRecOn with
    | ind handle ih =>
      cases hb : (forest.bindings handle).contains name with
      | true =>
        rw [binder?_of_contains hb] at hs
        cases hs
        exact .here hb
      | false =>
        cases hp : forest.parent? handle with
        | none =>
          rw [binder?, chain_of_root hp, List.find?_cons, hb] at hs
          cases hs
        | some parent =>
          rw [binder?_of_parent? h hb hp] at hs
          exact .above hb hp (ih parent (h handle parent hp) hs)
  · intro hf
    induction hf with
    | here hb => exact binder?_of_contains hb
    | above hb hp _ ih => rw [binder?_of_parent? h hb hp, ih]

theorem find?_view (forest : Forest α) (handle : Handle) (name : String) :
    (forest.view handle).find? name =
      (forest.binder? handle name).bind fun scope => (forest.bindings scope).find? name := by
  have hs : (forest.view handle).scopes = (forest.chain handle).map forest.bindings := by
    rw [chain_eq_cons]
    rfl
  rw [Environment.find?, hs, binder?]
  generalize forest.chain handle = chain
  induction chain with
  | nil => rfl
  | cons scope rest ih =>
    rw [List.map_cons, List.findSome?_cons, List.find?_cons, ih, Bindings.contains]
    cases hf : (forest.bindings scope).find? name with
    | none => rfl
    | some value => exact hf.symm

theorem find?_of_binder? {handle scope : Handle} {name : String}
    (h : forest.binder? handle name = some scope) :
    (forest.view handle).find? name = (forest.bindings scope).find? name := by
  rw [find?_view, h]
  rfl

theorem contains_eq_isSome_binder? (forest : Forest α) (handle : Handle) (name : String) :
    forest.contains handle name = (forest.binder? handle name).isSome := by
  rw [contains, Environment.contains_eq_isSome_find?, find?_view]
  cases hb : forest.binder? handle name with
  | none => rfl
  | some scope => exact (binder?_holds hb).1

theorem chain_define (forest : Forest α) (written : Handle) (name : String) (value : α)
    (handle : Handle) : (forest.define written name value).chain handle = forest.chain handle := by
  fun_induction forest.chain handle with
  | case1 handle hp => rw [chain, parent?_define, hp]
  | case2 handle parent hp hlt ih =>
    rw [chain, parent?_define, hp]
    simp only [if_pos hlt, ih]
  | case3 handle parent hp hlt =>
    rw [chain, parent?_define, hp]
    exact if_neg hlt

end Forest

end RequestScript
