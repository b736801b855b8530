import RequestScript.Proofs.Environment.Forest

namespace RequestScript

theorem names_insertByName {α : Type} {name : String} {value : α} {pairs : List (String × α)}
    (hs : SortedByName pairs) (hm : name ∈ pairs.map Prod.fst) :
    (insertByName name value pairs).map Prod.fst = pairs.map Prod.fst := by
  induction pairs with
  | nil => cases hm
  | cons pair rest ih =>
    obtain ⟨other, old⟩ := pair
    obtain ⟨hfirst, hrest⟩ := List.pairwise_cons.mp hs
    rw [insertByName]
    split
    next hlt =>
      -- names behind `other` come after it, so `name` would have to come before itself
      rcases List.mem_cons.mp hm with rfl | hr
      · exact absurd hlt (String.lt_irrefl _)
      · obtain ⟨later, hl, rfl⟩ := List.mem_map.mp hr
        exact absurd (hfirst later hl) (String.lt_asymm hlt)
    next =>
      split
      next he => rw [List.map_cons, List.map_cons, he]
      next hne =>
        have hr : name ∈ rest.map Prod.fst := by
          rcases List.mem_cons.mp hm with he | hr
          · exact absurd he hne
          · exact hr
        rw [List.map_cons, List.map_cons, ih hrest hr]

namespace Bindings

variable {α : Type}

theorem mem_names_iff {bindings : Bindings α} {name : String} :
    name ∈ bindings.names ↔ bindings.contains name = true := by
  unfold names contains find?
  induction bindings.pairs with
  | nil => simp
  | cons pair rest ih =>
    obtain ⟨other, value⟩ := pair
    rw [List.map_cons, List.mem_cons, lookup_cons_eq, ih]
    by_cases he : name = other
    · simp [he]
    · simp [he]

theorem names_ascending (bindings : Bindings α) : bindings.names.Pairwise (· < ·) :=
  List.pairwise_map.mpr bindings.sorted

theorem contains_insert (bindings : Bindings α) (name other : String) (value : α) :
    (bindings.insert name value).contains other = (other == name || bindings.contains other) := by
  unfold contains
  rw [find?_insert]
  by_cases he : other = name
  · simp [he]
  · simp [he]

theorem names_insert_of_contains {bindings : Bindings α} {name : String}
    (h : bindings.contains name = true) (value : α) :
    (bindings.insert name value).names = bindings.names :=
  names_insertByName bindings.sorted (mem_names_iff.mpr h)

end Bindings

/-- A search for more members gives one that was not searched before, or what it gave before. -/
theorem find?_eq_or_of_ne {β : Type} {p q : β → Bool} {x : β} (hx : q x = true)
    (hne : ∀ y, y ≠ x → q y = p y) (list : List β) :
    list.find? q = some x ∨ list.find? q = list.find? p := by
  induction list with
  | nil => exact Or.inr rfl
  | cons y ys ih =>
    rw [List.find?_cons, List.find?_cons]
    by_cases hy : y = x
    · left
      rw [hy, hx]
    · rw [hne y hy]
      cases p y with
      | true => exact Or.inr rfl
      | false => exact ih

namespace Forest

variable {α : Type} {forest : Forest α} {written : Handle} {name : String}

theorem mem_identifiers_iff {handle : Handle} :
    name ∈ forest.identifiers handle ↔ (forest.bindings handle).contains name = true :=
  Bindings.mem_names_iff

/-- A definition leaves the other names of its scope alone. -/
theorem find?_bindings_define_of_ne (hv : forest.Holds written) {other : String}
    (h : other ≠ name) (value : α) (scope : Handle) :
    ((forest.define written name value).bindings scope).find? other =
      (forest.bindings scope).find? other := by
  by_cases hs : written = scope
  · subst hs
    rw [bindings_define_self hv, Bindings.find?_insert, if_neg h]
  · rw [bindings_define_of_ne hs]

/-- A definition is what a walk to its name finds, unless the walk ends before it. -/
theorem binder?_define (hv : forest.Holds written) (name : String) (value : α) (handle : Handle) :
    (forest.define written name value).binder? handle name = some written ∨
      (forest.define written name value).binder? handle name = forest.binder? handle name := by
  rw [binder?, binder?, chain_define]
  refine find?_eq_or_of_ne ?_ (fun scope hs => ?_) (forest.chain handle)
  · rw [bindings_define_self hv, Bindings.contains_insert, beq_self_eq_true, Bool.true_or]
  · rw [bindings_define_of_ne (Ne.symm hs)]

theorem resolve_define_self (hv : forest.Holds written) {value : α} {handle : Handle}
    (h : (forest.define written name value).binder? handle name = some written) :
    (forest.define written name value).resolve handle name = .ok value := by
  have hf : ((forest.define written name value).view handle).find? name = some value := by
    rw [find?_of_binder? h, bindings_define_self hv, Bindings.find?_insert, if_pos rfl]
  exact Environment.resolve_of_find? hf

theorem resolve_define_of_ne (hv : forest.Holds written) {other : String} (h : other ≠ name)
    (value : α) (handle : Handle) :
    (forest.define written name value).resolve handle other = forest.resolve handle other := by
  have hb : (forest.define written name value).binder? handle other =
      forest.binder? handle other := by
    unfold binder? Bindings.contains
    simp only [chain_define, find?_bindings_define_of_ne hv h]
  have hf : ((forest.define written name value).view handle).find? other =
      (forest.view handle).find? other := by
    simp only [find?_view, hb, find?_bindings_define_of_ne hv h]
  rw [resolve, resolve, Environment.resolve, Environment.resolve, hf]

theorem resolve_define_elsewhere (hv : forest.Holds written) {value : α} {handle : Handle}
    (h : (forest.define written name value).binder? handle name ≠ some written) :
    (forest.define written name value).resolve handle name = forest.resolve handle name := by
  have hb : (forest.define written name value).binder? handle name =
      forest.binder? handle name :=
    (binder?_define hv name value handle).resolve_left h
  have hf : ((forest.define written name value).view handle).find? name =
      (forest.view handle).find? name := by
    rw [find?_view, find?_view, hb]
    cases hs : forest.binder? handle name with
    | none => rfl
    | some scope =>
      have hne : written ≠ scope := by
        rintro rfl
        exact h (hb.trans hs)
      rw [Option.bind_some, Option.bind_some, bindings_define_of_ne hne]
  rw [resolve, resolve, Environment.resolve, Environment.resolve, hf]

/-- Where a name is bound already, defining it again moves no walk. -/
theorem binder?_redefine (hv : forest.Holds written)
    (hb : (forest.bindings written).contains name = true) (value : α) (handle : Handle)
    (other : String) : (forest.define written name value).binder? handle other =
      forest.binder? handle other := by
  have hc (scope : Handle) : ((forest.define written name value).bindings scope).contains other =
      (forest.bindings scope).contains other := by
    by_cases hs : written = scope
    · subst hs
      rw [bindings_define_self hv, Bindings.contains_insert]
      by_cases he : other = name
      · rw [he, hb, Bool.or_true]
      · rw [beq_false_of_ne he, Bool.false_or]
    · rw [bindings_define_of_ne hs]
  unfold binder?
  simp only [chain_define, hc]

theorem identifiers_redefine (hv : forest.Holds written)
    (hb : (forest.bindings written).contains name = true) (value : α) (handle : Handle) :
    (forest.define written name value).identifiers handle = forest.identifiers handle := by
  unfold identifiers
  by_cases hs : written = handle
  · subst hs
    rw [bindings_define_self hv, Bindings.names_insert_of_contains hb]
  · rw [bindings_define_of_ne hs]

theorem identifiers_assign (handle : Handle) (name : String) (value : α) (scope : Handle) :
    (forest.perform (.assign handle name value)).1.identifiers scope =
      forest.identifiers scope := by
  cases hb : forest.binder? handle name with
  | none => rw [perform_assign_of_not_bound value hb]
  | some written =>
    obtain ⟨hc, hv⟩ := binder?_holds hb
    rw [perform_assign_of_binder? value hb]
    exact identifiers_redefine hv hc value scope

/-- A scope has the names that have been defined in it: a call adds the name that it defines to the
scope of its handle, and changes no other names. -/
theorem mem_identifiers_perform {call : ScopeCall α}
    (hv : ∀ handle ∈ call.handle?, forest.Holds handle) (scope : Handle) (name : String) :
    name ∈ (forest.perform call).1.identifiers scope ↔
      name ∈ forest.identifiers scope ∨ ∃ value, call = .define scope name value := by
  cases call with
  | new =>
    rw [mem_identifiers_iff, mem_identifiers_iff]
    exact (iff_of_eq (by rw [perform, addRoot, bindings_add])).trans (by simp)
  | enclosed handle =>
    rw [mem_identifiers_iff, mem_identifiers_iff]
    exact (iff_of_eq (by rw [perform, enclose, bindings_add])).trans (by simp)
  | clone handle => simp [perform]
  | assign handle own value =>
    rw [identifiers_assign]
    simp
  | define handle own value =>
    rw [mem_identifiers_iff, mem_identifiers_iff, perform]
    by_cases hs : handle = scope
    · subst hs
      rw [bindings_define_self (hv handle rfl), Bindings.contains_insert]
      by_cases hn : name = own
      · simp [hn]
      · simp [hn, Ne.symm hn]
    · rw [bindings_define_of_ne hs]
      simp [hs]

theorem Finds.le {handle scope : Handle} (h : forest.Ordered)
    (hf : forest.Finds name handle scope) : scope ≤ handle := by
  induction hf with
  | here => exact Nat.le_refl _
  | above _ hp _ ih => exact Nat.le_trans ih (Nat.le_of_lt (h _ _ hp))

theorem mem_identifiers_iff_finds {handle : Handle} (h : forest.Ordered) :
    name ∈ forest.identifiers handle ↔ forest.Finds name handle handle := by
  rw [mem_identifiers_iff]
  refine ⟨.here, fun hf => ?_⟩
  cases hf with
  | here hb => exact hb
  | above _ hp hf => exact absurd (h _ _ hp) (Nat.not_lt.mpr (hf.le h))

theorem contains_iff_finds {handle : Handle} (h : forest.Ordered) :
    forest.contains handle name = true ↔ ∃ scope, forest.Finds name handle scope := by
  rw [contains_eq_isSome_binder?, Option.isSome_iff_exists]
  exact exists_congr fun scope => binder?_eq_some_iff h

/-- A definition is seen through the handles from which its scope is the nearest that now binds the
name, and nothing else changes. -/
theorem resolve_perform_define (h : forest.Ordered) (hv : forest.Holds written) (name : String)
    (value : α) (handle : Handle) (other : String) :
    let after := (forest.perform (.define written name value)).1
    (other = name ∧ after.Finds name handle written → after.resolve handle other = .ok value) ∧
    (¬ (other = name ∧ after.Finds name handle written) →
      after.resolve handle other = forest.resolve handle other) := by
  intro after
  have ha : after.Ordered := ordered_define h written name value
  refine ⟨fun ⟨ho, hf⟩ => ?_, fun hn => ?_⟩
  · subst ho
    exact resolve_define_self hv ((binder?_eq_some_iff ha).mpr hf)
  · by_cases ho : other = name
    · subst ho
      refine resolve_define_elsewhere hv fun hb => hn ⟨rfl, ?_⟩
      exact (binder?_eq_some_iff ha).mp hb
    · exact resolve_define_of_ne hv ho value handle

/-- An assignment is seen through the handles from which the name is found in the same scope. -/
theorem resolve_perform_assign (h : forest.Ordered) {holder scope : Handle} {name : String}
    (hs : forest.Finds name holder scope) (value : α) (handle : Handle) (other : String) :
    let after := (forest.perform (.assign holder name value)).1
    (other = name ∧ forest.Finds name handle scope → after.resolve handle other = .ok value) ∧
    (¬ (other = name ∧ forest.Finds name handle scope) →
      after.resolve handle other = forest.resolve handle other) := by
  intro after
  have hb : forest.binder? holder name = some scope := (binder?_eq_some_iff h).mpr hs
  obtain ⟨hc, hv⟩ := binder?_holds hb
  have ha : after = forest.define scope name value :=
    congrArg Prod.fst (perform_assign_of_binder? value hb)
  have hf : after.Finds name handle scope ↔ forest.Finds name handle scope := by
    rw [ha, ← binder?_eq_some_iff (ordered_define h scope name value), ← binder?_eq_some_iff h,
      binder?_redefine hv hc]
  rw [← hf, ha]
  exact resolve_perform_define h hv name value handle other

theorem perform_assign_eq_ok_iff {holder : Handle} {value : α} :
    ((forest.perform (.assign holder name value)).2 : Except UndefinedName Unit) = .ok () ↔
      forest.contains holder name = true := by
  rw [contains_eq_isSome_binder?]
  cases hb : forest.binder? holder name with
  | none =>
    rw [perform_assign_of_not_bound value hb]
    exact ⟨fun he => (by cases he), fun hs => (by cases hs)⟩
  | some scope =>
    rw [perform_assign_of_binder? value hb]
    exact ⟨fun _ => rfl, fun _ => rfl⟩

theorem perform_assign_of_not_contains {holder : Handle} (h : forest.contains holder name = false)
    (value : α) : forest.perform (.assign holder name value) = (forest, .error ⟨name⟩) := by
  rw [contains_eq_isSome_binder?, Option.isSome_eq_false_iff, Option.isNone_iff_eq_none] at h
  exact perform_assign_of_not_bound value h

/-- What is written through one handle is seen through all others: a definition wherever its scope
is the nearest that now binds the name, an assignment wherever the name is found in the same scope,
and nothing else changes. A look-up, a test and an assignment walk to the same scope, and the names
of a scope are those that have been defined in it. -/
theorem writes_seen (hr : Reached forest) :
    (∀ written name value, forest.Holds written → ∀ handle other,
      let after := (forest.perform (.define written name value)).1
      (other = name ∧ after.Finds name handle written → after.resolve handle other = .ok value) ∧
      (¬ (other = name ∧ after.Finds name handle written) →
        after.resolve handle other = forest.resolve handle other)) ∧
    (∀ holder name value,
      let after := (forest.perform (.assign holder name value)).1
      let answer : Except UndefinedName Unit := (forest.perform (.assign holder name value)).2
      (answer = .ok () ↔ forest.contains holder name = true) ∧
      (forest.contains holder name = false → after = forest ∧ answer = .error ⟨name⟩) ∧
      (∀ scope, forest.Finds name holder scope → ∀ handle other,
        (other = name ∧ forest.Finds name handle scope →
          after.resolve handle other = .ok value) ∧
        (¬ (other = name ∧ forest.Finds name handle scope) →
          after.resolve handle other = forest.resolve handle other)) ∧
      ∀ scope, after.identifiers scope = forest.identifiers scope) ∧
    (∀ handle name,
      (forest.contains handle name = true ↔ ∃ value, forest.resolve handle name = .ok value) ∧
      (forest.contains handle name = true ↔ ∃ scope, forest.Finds name handle scope) ∧
      (∀ error, forest.resolve handle name = .error error → error = ⟨name⟩) ∧
      (name ∈ forest.identifiers handle ↔ forest.Finds name handle handle) ∧
      (forest.identifiers handle).Pairwise (· < ·)) ∧
    ∀ call : ScopeCall α, (∀ handle ∈ call.handle?, forest.Holds handle) → ∀ scope name,
      name ∈ (forest.perform call).1.identifiers scope ↔
        name ∈ forest.identifiers scope ∨ ∃ value, call = .define scope name value := by
  have h := hr.ordered
  refine ⟨fun written name value hv => resolve_perform_define h hv name value,
    fun holder name value => ⟨perform_assign_eq_ok_iff, fun hc => ?_, fun scope hs =>
      resolve_perform_assign h hs value, identifiers_assign holder name value⟩,
    fun handle name => ⟨Environment.contains_iff, contains_iff_finds h, fun error he =>
      Environment.eq_of_resolve_eq_error he, mem_identifiers_iff_finds h,
      Bindings.names_ascending _⟩, fun call hv => mem_identifiers_perform hv⟩
  rw [perform_assign_of_not_contains hc value]
  exact ⟨rfl, rfl⟩

theorem writes_seen_from_child :
    let forest : Forest Nat := ((empty.perform .new).1.perform (.enclosed 0)).1
    let after := (forest.perform (.define 0 "a" 2)).1
    Reached forest ∧ forest.Holds 0 ∧ after.Finds "a" 1 0 ∧ after.resolve 1 "a" = .ok 2 := by
  intro forest after
  have hr : Reached forest := by
    refine .call (.call .empty .new fun handle hh => by cases hh) (.enclosed 0) fun handle hh => ?_
    cases hh
    exact Nat.zero_lt_one
  have hv : forest.Holds 0 := Nat.zero_lt_two
  have hf : after.Finds "a" 1 0 := .above (by decide) rfl (.here (by decide))
  exact ⟨hr, hv, hf, ((writes_seen hr).1 0 "a" 2 hv 1 "a").1 ⟨rfl, hf⟩⟩

end Forest

end RequestScript
