import Mathlib.Logic.Function.Basic
import RequestScript.Proofs.Environment.Forest

namespace RequestScript.Forest

variable {α : Type} {forest : Forest α} {handle : Handle}

theorem holds_define (written : Handle) (name : String) (value : α) (handle : Handle) :
    (forest.define written name value).Holds handle ↔ forest.Holds handle := by
  have hs : (forest.define written name value).scopes.size = forest.scopes.size :=
    Array.size_modify
  unfold Holds
  rw [hs]

theorem holds_add (parent : Option Handle) (handle : Handle) :
    (forest.add parent).1.Holds handle ↔ forest.Holds handle ∨ handle = forest.scopes.size := by
  have hs : (forest.add parent).1.scopes.size = forest.scopes.size + 1 := Array.size_push _
  unfold Holds
  rw [hs]
  exact Nat.lt_succ_iff_lt_or_eq

theorem not_holds_size : ¬ forest.Holds forest.scopes.size :=
  Nat.lt_irrefl _

theorem parent?_add_of_holds (h : forest.Holds handle) (parent : Option Handle) :
    (forest.add parent).1.parent? handle = forest.parent? handle := by
  have hne : handle ≠ forest.scopes.size := fun he => not_holds_size (he ▸ h)
  unfold parent?
  rw [scopes_getElem?_add, if_neg hne]

theorem parent?_add_new (parent : Option Handle) :
    (forest.add parent).1.parent? forest.scopes.size = parent := by
  unfold parent?
  rw [scopes_getElem?_add, if_pos rfl]
  rfl

theorem bindings_add_new (parent : Option Handle) :
    (forest.add parent).1.bindings forest.scopes.size = ∅ := by
  rw [bindings_add, bindings_of_not_holds not_holds_size]

theorem Ordered.holds_parent {parent : Handle} (h : forest.Ordered) (hv : forest.Holds handle)
    (hp : forest.parent? handle = some parent) : forest.Holds parent :=
  Nat.lt_trans (h handle parent hp) hv

theorem Ordered.holds_of_mem_chain (h : forest.Ordered) (hv : forest.Holds handle)
    {scope : Handle} (hm : scope ∈ forest.chain handle) : forest.Holds scope := by
  induction handle using Nat.strongRecOn with
  | ind handle ih =>
    cases hp : forest.parent? handle with
    | none =>
      rw [chain_of_root hp] at hm
      rwa [List.mem_singleton.mp hm]
    | some parent =>
      rw [chain_of_parent? h hp] at hm
      rcases List.mem_cons.mp hm with rfl | hm
      · exact hv
      · exact ih parent (h handle parent hp) (h.holds_parent hv hp) hm

/-- The scopes of one forest are found in another under names of their own, with the same bindings
and the same scopes around them. -/
structure Embeds (f : Handle → Handle) (part whole : Forest α) : Prop where
  holds : ∀ handle, part.Holds handle → whole.Holds (f handle)
  injective : ∀ a b, part.Holds a → part.Holds b → f a = f b → a = b
  bindings : ∀ handle, part.Holds handle → whole.bindings (f handle) = part.bindings handle
  parent : ∀ handle, part.Holds handle → whole.parent? (f handle) = (part.parent? handle).map f

namespace Embeds

variable {part whole : Forest α} {f : Handle → Handle}

theorem refl (forest : Forest α) : Embeds id forest forest where
  holds _ h := h
  injective _ _ _ _ h := h
  bindings _ _ := rfl
  parent handle _ := (congrFun Option.map_id (forest.parent? handle)).symm

theorem chain (he : Embeds f part whole) (hp : part.Ordered) (hw : whole.Ordered)
    (hv : part.Holds handle) : whole.chain (f handle) = (part.chain handle).map f := by
  induction handle using Nat.strongRecOn with
  | ind handle ih =>
    have hparent := he.parent handle hv
    cases hpart : part.parent? handle with
    | none =>
      rw [hpart] at hparent
      rw [chain_of_root hpart, chain_of_root hparent]
      rfl
    | some parent =>
      rw [hpart] at hparent
      have hc := ih parent (hp handle parent hpart) (hp.holds_parent hv hpart)
      rw [chain_of_parent? hp hpart, chain_of_parent? hw hparent, hc]
      rfl

/-- What is seen from a scope does not change with its name. -/
theorem view (he : Embeds f part whole) (hp : part.Ordered) (hw : whole.Ordered)
    (hv : part.Holds handle) : whole.view (f handle) = part.view handle := by
  have ht : (whole.chain (f handle)).tail.map whole.bindings =
      (part.chain handle).tail.map part.bindings := by
    rw [he.chain hp hw hv, ← List.map_tail, List.map_map]
    refine List.map_congr_left fun scope hm => ?_
    exact he.bindings scope (hp.holds_of_mem_chain hv (List.mem_of_mem_tail hm))
  rw [Forest.view, Forest.view, he.bindings handle hv, ht]

theorem binder? (he : Embeds f part whole) (hp : part.Ordered) (hw : whole.Ordered)
    (hv : part.Holds handle) (name : String) :
    whole.binder? (f handle) name = (part.binder? handle name).map f := by
  have hc (scope : Handle) (hm : scope ∈ part.chain handle) :
      (whole.bindings (f scope)).contains name = (part.bindings scope).contains name := by
    rw [he.bindings scope (hp.holds_of_mem_chain hv hm)]
  rw [Forest.binder?, Forest.binder?, he.chain hp hw hv, List.find?_map]
  congr 1
  generalize part.chain handle = chain at hc
  induction chain with
  | nil => rfl
  | cons scope rest ih =>
    have hs := hc scope List.mem_cons_self
    rw [List.find?_cons, List.find?_cons, ih fun other hm => hc other (List.mem_cons_of_mem _ hm),
      Function.comp_apply, hs]

/-- A name may be bound in a scope of both forests. -/
theorem define (he : Embeds f part whole) {written : Handle} (hv : part.Holds written)
    (name : String) (value : α) :
    Embeds f (part.define written name value) (whole.define (f written) name value) where
  holds handle h := (holds_define _ _ _ _).mpr (he.holds handle ((holds_define _ _ _ _).mp h))
  injective a b ha hb :=
    he.injective a b ((holds_define _ _ _ _).mp ha) ((holds_define _ _ _ _).mp hb)
  bindings handle h := by
    have hh := (holds_define _ _ _ _).mp h
    by_cases hw : written = handle
    · subst hw
      rw [bindings_define_self (he.holds _ hv), bindings_define_self hv, he.bindings _ hv]
    · have hne : f written ≠ f handle := fun hf => hw (he.injective _ _ hv hh hf)
      rw [bindings_define_of_ne hne, bindings_define_of_ne hw, he.bindings _ hh]
  parent handle h := by
    rw [parent?_define, parent?_define, he.parent handle ((holds_define _ _ _ _).mp h)]

/-- What is bound in the other scopes of the larger forest does not matter. -/
theorem define_outside (he : Embeds f part whole) {written : Handle}
    (hn : ∀ handle, part.Holds handle → f handle ≠ written) (name : String) (value : α) :
    Embeds f part (whole.define written name value) where
  holds handle h := (holds_define _ _ _ _).mpr (he.holds handle h)
  injective := he.injective
  bindings handle h := by
    rw [bindings_define_of_ne (Ne.symm (hn handle h)), he.bindings handle h]
  parent handle h := by rw [parent?_define, he.parent handle h]

theorem add_outside (he : Embeds f part whole) (parent : Option Handle) :
    Embeds f part (whole.add parent).1 where
  holds handle h := (holds_add _ _).mpr (Or.inl (he.holds handle h))
  injective := he.injective
  bindings handle h := by rw [bindings_add, he.bindings handle h]
  parent handle h := by rw [parent?_add_of_holds (he.holds handle h), he.parent handle h]

/-- A scope may be made in both forests, in each under its next handle. -/
theorem add (he : Embeds f part whole) (hp : part.Ordered) {parent : Handle}
    (hv : part.Holds parent) :
    Embeds (Function.update f part.scopes.size whole.scopes.size) (part.enclose parent).1
      (whole.enclose (f parent)).1 := by
  have hold {handle : Handle} (h : part.Holds handle) :
      Function.update f part.scopes.size whole.scopes.size handle = f handle :=
    Function.update_of_ne (fun hs => not_holds_size (hs ▸ h)) _ _
  have hnew : Function.update f part.scopes.size whole.scopes.size part.scopes.size =
      whole.scopes.size := Function.update_self _ _ _
  have hfresh {handle : Handle} (h : part.Holds handle) : f handle ≠ whole.scopes.size :=
    fun hs => not_holds_size (hs ▸ he.holds handle h)
  refine ⟨fun handle h => ?_, fun a b ha hb hf => ?_, fun handle h => ?_, fun handle h => ?_⟩
  · rcases (holds_add _ _).mp h with h | rfl
    · rw [hold h]
      exact (holds_add _ _).mpr (Or.inl (he.holds handle h))
    · rw [hnew]
      exact (holds_add _ _).mpr (Or.inr rfl)
  · rcases (holds_add _ _).mp ha with ha | rfl
    · rcases (holds_add _ _).mp hb with hb | rfl
      · rw [hold ha, hold hb] at hf
        exact he.injective a b ha hb hf
      · rw [hold ha, hnew] at hf
        exact absurd hf (hfresh ha)
    · rcases (holds_add _ _).mp hb with hb | rfl
      · rw [hold hb, hnew] at hf
        exact absurd hf.symm (hfresh hb)
      · rfl
  · rcases (holds_add _ _).mp h with h | rfl
    · rw [hold h, enclose, enclose, bindings_add, bindings_add, he.bindings handle h]
    · rw [hnew, enclose, enclose, bindings_add_new, bindings_add_new]
  · rcases (holds_add _ _).mp h with h | rfl
    · rw [hold h, enclose, enclose, parent?_add_of_holds h, parent?_add_of_holds (he.holds _ h),
        he.parent handle h]
      cases hparent : part.parent? handle with
      | none => rfl
      | some outer =>
        rw [Option.map_some, Option.map_some, hold (hp.holds_parent h hparent)]
    · rw [hnew, enclose, enclose, parent?_add_new, parent?_add_new, Option.map_some, hold hv]

end Embeds

end RequestScript.Forest
