namespace RequestScript

/-- A list of pairs with one more, in the order of the names; a pair of the same name gives way. -/
def insertByName {α : Type} (name : String) (value : α) :
    List (String × α) → List (String × α)
  | [] => [(name, value)]
  | (other, old) :: rest =>
    if name < other then (name, value) :: (other, old) :: rest
    else if name = other then (name, value) :: rest
    else (other, old) :: insertByName name value rest

theorem mem_insertByName {α : Type} {name : String} {value : α} {pairs : List (String × α)}
    {pair : String × α} (h : pair ∈ insertByName name value pairs) :
    pair = (name, value) ∨ pair ∈ pairs := by
  fun_induction insertByName name value pairs with
  | case1 => simpa using h
  | case2 other old rest _ =>
    rcases List.mem_cons.mp h with h | h
    · exact Or.inl h
    · exact Or.inr h
  | case3 old rest _ =>
    rcases List.mem_cons.mp h with h | h
    · exact Or.inl h
    · exact Or.inr (List.mem_cons_of_mem _ h)
  | case4 other old rest _ _ ih =>
    rcases List.mem_cons.mp h with h | h
    · exact Or.inr (by simp [h])
    · rcases ih h with h | h
      · exact Or.inl h
      · exact Or.inr (List.mem_cons_of_mem _ h)

/-- The pairs of a list stand in strictly increasing order of their names. -/
def SortedByName {α : Type} (pairs : List (String × α)) : Prop :=
  pairs.Pairwise fun a b => a.1 < b.1

theorem sortedByName_insertByName {α : Type} {name : String} {value : α}
    {pairs : List (String × α)} (h : SortedByName pairs) :
    SortedByName (insertByName name value pairs) := by
  unfold SortedByName at *
  fun_induction insertByName name value pairs with
  | case1 => simp
  | case2 other old rest hlt =>
    refine List.pairwise_cons.mpr ⟨?_, h⟩
    intro pair hp
    rcases List.mem_cons.mp hp with rfl | hp
    · exact hlt
    · exact String.lt_trans hlt (List.rel_of_pairwise_cons h hp)
  | case3 old rest _ =>
    exact List.pairwise_cons.mpr ⟨fun pair hp => List.rel_of_pairwise_cons h hp,
      (List.pairwise_cons.mp h).2⟩
  | case4 other old rest hnl hne ih =>
    refine List.pairwise_cons.mpr ⟨?_, ih (List.pairwise_cons.mp h).2⟩
    intro pair hp
    rcases mem_insertByName hp with rfl | hp
    · rcases Std.lt_trichotomy name other with hlt | heq | hgt
      · exact absurd hlt hnl
      · exact absurd heq hne
      · exact hgt
    · exact List.rel_of_pairwise_cons h hp

/-- Values under distinct names, in the order of the names. -/
structure Bindings (α : Type) where
  pairs : List (String × α)
  sorted : SortedByName pairs

namespace Bindings

variable {α : Type}

def empty : Bindings α :=
  ⟨[], List.Pairwise.nil⟩

instance : EmptyCollection (Bindings α) := ⟨empty⟩

/-- The bindings with `name` bound to `value`, whatever it was bound to before. -/
def insert (bindings : Bindings α) (name : String) (value : α) : Bindings α :=
  ⟨insertByName name value bindings.pairs, sortedByName_insertByName bindings.sorted⟩

def erase (bindings : Bindings α) (name : String) : Bindings α :=
  ⟨bindings.pairs.filter fun pair => pair.1 != name, bindings.sorted.filter _⟩

def find? (bindings : Bindings α) (name : String) : Option α :=
  bindings.pairs.lookup name

def contains (bindings : Bindings α) (name : String) : Bool :=
  (bindings.find? name).isSome

def names (bindings : Bindings α) : List String :=
  bindings.pairs.map Prod.fst

def size (bindings : Bindings α) : Nat :=
  bindings.pairs.length

/-- The pairs inserted one after the other. -/
def ofList (pairs : List (String × α)) : Bindings α :=
  pairs.foldl (fun bindings pair => bindings.insert pair.1 pair.2) empty

theorem lookup_cons_eq (name other : String) (value : α) (pairs : List (String × α)) :
    List.lookup other ((name, value) :: pairs) =
      if other = name then some value else List.lookup other pairs := by
  rw [List.lookup_cons]
  by_cases h : other = name
  · simp [h]
  · have hb : (other == name) = false := by simpa using h
    simp [h, hb]

theorem find?_insert (bindings : Bindings α) (name other : String) (value : α) :
    (bindings.insert name value).find? other =
      if other = name then some value else bindings.find? other := by
  unfold find? insert
  dsimp only
  generalize bindings.pairs = pairs
  fun_induction insertByName name value pairs with
  | case1 => simp only [lookup_cons_eq]
  | case2 first old rest _ => simp only [lookup_cons_eq]
  | case3 old rest _ =>
    simp only [lookup_cons_eq]
    split <;> rfl
  | case4 first old rest _ hne ih =>
    simp only [lookup_cons_eq, ih]
    by_cases hf : other = first
    · subst hf
      simp [Ne.symm hne]
    · simp [hf]

theorem find?_erase (bindings : Bindings α) (name other : String) :
    (bindings.erase name).find? other = if other = name then none else bindings.find? other := by
  unfold find? erase
  dsimp only
  generalize bindings.pairs = pairs
  induction pairs with
  | nil => simp
  | cons pair rest ih =>
    obtain ⟨first, value⟩ := pair
    by_cases hn : first = name
    · subst hn
      simp only [List.filter_cons, bne_self_eq_false, Bool.false_eq_true, if_false, ih,
        lookup_cons_eq]
      split <;> rfl
    · have hk : (first != name) = true := by simpa using hn
      simp only [List.filter_cons, hk, if_true, lookup_cons_eq, ih]
      by_cases ho : other = first
      · subst ho
        simp [hn]
      · simp [ho]

end Bindings

end RequestScript
