import RequestScript.Bindings

namespace RequestScript

theorem insertByName_append {α : Type} {name : String} {value : α} {pairs : List (String × α)}
    (h : ∀ pair ∈ pairs, pair.1 < name) :
    insertByName name value pairs = pairs ++ [(name, value)] := by
  induction pairs with
  | nil => rfl
  | cons pair rest ih =>
    obtain ⟨other, old⟩ := pair
    have hlt : other < name := h (other, old) (by simp)
    have hn : ¬ name < other := String.lt_asymm hlt
    have hne : name ≠ other := fun he => String.lt_irrefl _ (he ▸ hlt)
    rw [insertByName, if_neg hn, if_neg hne, ih fun pair hp => h pair (by simp [hp])]
    rfl

theorem filter_insertByName {α : Type} (p : String → Bool) {name : String} {value : α}
    {pairs : List (String × α)} (h : p name = false) :
    ((insertByName name value pairs).filter fun pair => p pair.1) =
      pairs.filter fun pair => p pair.1 := by
  fun_induction insertByName name value pairs with
  | case1 => simp [h]
  | case2 => simp [h]
  | case3 => simp [h]
  | case4 other old rest _ _ ih => simp only [List.filter_cons, ih]

theorem lookup_eq_none_of_lt {α : Type} {pairs : List (String × α)} {name : String}
    (h : ∀ pair ∈ pairs, name < pair.1) : pairs.lookup name = none := by
  refine List.lookup_eq_none_iff.mpr fun pair hp => bne_iff_ne.mpr fun he => ?_
  exact String.lt_irrefl _ (he ▸ h pair hp)

theorem lt_of_sortedByName_snoc {α : Type} {pairs : List (String × α)} {name : String} {value : α}
    (h : SortedByName (pairs ++ [(name, value)])) : ∀ pair ∈ pairs, pair.1 < name :=
  fun pair hp => (List.pairwise_append.mp h).2.2 pair hp (name, value) (List.mem_singleton_self _)

theorem lookup_snoc {α : Type} {pairs : List (String × α)} {name : String} {value : α}
    (h : SortedByName (pairs ++ [(name, value)])) (other : String) :
    (pairs ++ [(name, value)]).lookup other =
      if other = name then some value else pairs.lookup other := by
  rw [← insertByName_append (lt_of_sortedByName_snoc h)]
  exact Bindings.find?_insert ⟨pairs, h.sublist (List.sublist_append_left _ _)⟩ name other value

theorem lookup_map_values {α β : Type} (f : α → β) (pairs : List (String × α)) (name : String) :
    (pairs.map fun pair => (pair.1, f pair.2)).lookup name = (pairs.lookup name).map f := by
  induction pairs with
  | nil => rfl
  | cons pair rest ih =>
    rw [List.map_cons, Bindings.lookup_cons_eq, Bindings.lookup_cons_eq, ih]
    split <;> rfl

/-- Under distinct names a pair is found exactly if it is there. -/
theorem lookup_eq_some_iff_mem {α : Type} {pairs : List (String × α)} {name : String} {value : α}
    (h : (pairs.map Prod.fst).Nodup) : pairs.lookup name = some value ↔ (name, value) ∈ pairs := by
  induction pairs with
  | nil => simp
  | cons pair rest ih =>
    obtain ⟨first, found⟩ := pair
    obtain ⟨hf, hr⟩ := List.nodup_cons.mp h
    rw [Bindings.lookup_cons_eq, List.mem_cons, Prod.mk.injEq]
    by_cases hn : name = first
    · subst hn
      have hm : (name, value) ∉ rest := fun hm => hf (List.mem_map.mpr ⟨_, hm, rfl⟩)
      rw [if_pos rfl, Option.some.injEq]
      exact ⟨fun he => Or.inl ⟨rfl, he.symm⟩, fun he => (he.resolve_right hm).2.symm⟩
    · rw [if_neg hn, ih hr]
      exact ⟨Or.inr, fun he => he.resolve_left fun hs => hn hs.1⟩

namespace Bindings

variable {α : Type}

theorem ext {a b : Bindings α} (h : a.pairs = b.pairs) : a = b := by
  cases a
  cases b
  cases h
  rfl

/-- Bindings are what they bind: there is one order in which their pairs can stand. -/
theorem ext_find? {a b : Bindings α} (h : ∀ name, a.find? name = b.find? name) : a = b := by
  have hne {p q : String × α} (hlt : p.1 < q.1) : p.1 ≠ q.1 := fun he =>
    String.lt_irrefl _ (he ▸ hlt)
  have hn (bindings : Bindings α) : (bindings.pairs.map Prod.fst).Nodup :=
    List.pairwise_map.mpr (bindings.sorted.imp hne)
  have hm (pair : String × α) : pair ∈ a.pairs ↔ pair ∈ b.pairs := by
    rw [← lookup_eq_some_iff_mem (hn a), ← lookup_eq_some_iff_mem (hn b)]
    exact iff_of_eq (congrArg (· = some pair.2) (h pair.1))
  have hd (bindings : Bindings α) : bindings.pairs.Nodup :=
    bindings.sorted.imp fun hlt he => hne hlt (congrArg Prod.fst he)
  have hp := (List.perm_ext_iff_of_nodup (hd a) (hd b)).mpr hm
  exact ext (hp.eq_of_pairwise (fun _ _ _ _ hab hba => absurd hba (String.lt_asymm hab))
    a.sorted b.sorted)

theorem pairs_foldl_insert (bindings : Bindings α) {pairs : List (String × α)}
    (h : SortedByName (bindings.pairs ++ pairs)) :
    (pairs.foldl (fun bindings pair => bindings.insert pair.1 pair.2) bindings).pairs =
      bindings.pairs ++ pairs := by
  induction pairs generalizing bindings with
  | nil => simp
  | cons pair rest ih =>
    have hlt : ∀ old ∈ bindings.pairs, old.1 < pair.1 := fun old ho =>
      (List.pairwise_append.mp h).2.2 old ho pair (by simp)
    have hi : (bindings.insert pair.1 pair.2).pairs = bindings.pairs ++ [pair] :=
      insertByName_append hlt
    have hr := ih (bindings.insert pair.1 pair.2) (by simpa [hi] using h)
    simpa [hi] using hr

/-- The bindings with each value replaced by what a function makes of it. -/
def map {β : Type} (f : α → β) (bindings : Bindings α) : Bindings β where
  pairs := bindings.pairs.map fun pair => (pair.1, f pair.2)
  sorted := by
    have h := bindings.sorted
    unfold SortedByName at *
    exact List.pairwise_map.mpr h

theorem find?_map {β : Type} (f : α → β) (bindings : Bindings α) (name : String) :
    (bindings.map f).find? name = (bindings.find? name).map f :=
  lookup_map_values f bindings.pairs name

theorem map_insert {β : Type} (f : α → β) (bindings : Bindings α) (name : String) (value : α) :
    (bindings.insert name value).map f = (bindings.map f).insert name (f value) := by
  apply ext
  unfold map insert
  dsimp only
  generalize bindings.pairs = pairs
  induction pairs with
  | nil => rfl
  | cons pair rest ih =>
    simp only [insertByName, List.map_cons]
    split
    · rfl
    split
    · rfl
    · rw [List.map_cons, ih]

theorem map_erase {β : Type} (f : α → β) (bindings : Bindings α) (name : String) :
    (bindings.erase name).map f = (bindings.map f).erase name := by
  apply ext
  unfold map erase
  simp only [List.filter_map]
  rfl

theorem erase_of_find?_eq_none {bindings : Bindings α} {name : String}
    (h : bindings.find? name = none) : bindings.erase name = bindings := by
  apply ext
  unfold find? at h
  unfold erase
  refine List.filter_eq_self.mpr fun pair hp => ?_
  exact bne_iff_ne.mpr (bne_iff_ne.mp (List.lookup_eq_none_iff.mp h pair hp)).symm

/-- Bindings are made again by inserting their pairs one after the other. -/
theorem ofList_pairs (bindings : Bindings α) : ofList bindings.pairs = bindings :=
  ext (pairs_foldl_insert empty bindings.sorted)

end Bindings

end RequestScript
