import RequestScript.Environment.Document
import RequestScript.Proofs.Bindings
import RequestScript.Proofs.Json.Ordered

namespace RequestScript

/-- An ASCII letter or an underscore. -/
def StartsEnvironmentName (c : Char) : Prop :=
  ('A' ≤ c ∧ c ≤ 'Z') ∨ ('a' ≤ c ∧ c ≤ 'z') ∨ c = '_'

/-- What `isEnvironmentName` tells. -/
def IsEnvironmentName (name : String) : Prop :=
  ∃ first rest, name.toList = first :: rest ∧ StartsEnvironmentName first ∧
    ∀ c ∈ rest, StartsEnvironmentName c ∨ ('0' ≤ c ∧ c ≤ '9') ∨ c = '-'

theorem startsEnvironmentName_iff (c : Char) :
    (c.isAlpha || c == '_') = true ↔ StartsEnvironmentName c := by
  have hu : c.isUpper = true ↔ 'A' ≤ c ∧ c ≤ 'Z' := decide_eq_true_iff
  have hl : c.isLower = true ↔ 'a' ≤ c ∧ c ≤ 'z' := by
    change (decide ('a' ≤ c) && decide (c ≤ 'z')) = true ↔ _
    rw [Bool.and_eq_true, decide_eq_true_iff, decide_eq_true_iff]
  change (c.isUpper || c.isLower || c == '_') = true ↔ StartsEnvironmentName c
  rw [Bool.or_eq_true, Bool.or_eq_true, hu, hl, beq_iff_eq, or_assoc]
  rfl

theorem continuesEnvironmentName_iff (c : Char) : (c.isAlphanum || c == '_' || c == '-') = true ↔
    StartsEnvironmentName c ∨ ('0' ≤ c ∧ c ≤ '9') ∨ c = '-' := by
  have hd : c.isDigit = true ↔ '0' ≤ c ∧ c ≤ '9' := Char.isDigit_iff_toNat
  rw [← startsEnvironmentName_iff, ← hd]
  change (c.isAlpha || c.isDigit || c == '_' || c == '-') = true ↔ _
  rw [Bool.or_right_comm c.isAlpha, Bool.or_assoc, Bool.or_eq_true, Bool.or_eq_true (c.isDigit),
    beq_iff_eq]

theorem isEnvironmentName_iff (name : String) :
    isEnvironmentName name = true ↔ IsEnvironmentName name := by
  unfold isEnvironmentName IsEnvironmentName
  cases name.toList with
  | nil => simp
  | cons first rest =>
    rw [Bool.and_eq_true, startsEnvironmentName_iff, List.all_eq_true]
    simp only [continuesEnvironmentName_iff, List.cons.injEq]
    constructor
    · rintro ⟨hf, hr⟩
      exact ⟨first, rest, ⟨rfl, rfl⟩, hf, hr⟩
    · rintro ⟨_, _, ⟨rfl, rfl⟩, hf, hr⟩
      exact ⟨hf, hr⟩

namespace Json

/-- A value that is neither an array nor an object. -/
def IsScalar (value : Json) : Prop :=
  value.array? = none ∧ value.object? = none

/-- An object with no array and no object among its members. -/
def IsScope (value : Json) : Prop :=
  ∃ members, value = .object members ∧ ∀ member ∈ members, member.2.IsScalar

/-- The text of a member, if the value is an object that has it. -/
def text? (value : Json) (name : String) : Option String :=
  (value.member? name).bind scalarText?

theorem isScalar_iff (value : Json) : value.IsScalar ↔ ∃ text, scalarText? value = some text := by
  cases value with
  | bool value => cases value <;> simp [IsScalar, scalarText?, array?, object?]
  | _ => simp [IsScalar, scalarText?, array?, object?]

end Json

theorem exists_addVariables_iff {context : String} {members : List (String × Json)}
    {start : Bindings String} : (∃ scope, addVariables context start members = .ok scope) ↔
      ∀ member ∈ members, member.2.IsScalar := by
  induction members generalizing start with
  | nil => simp [addVariables]
  | cons member rest ih =>
    obtain ⟨name, value⟩ := member
    rw [List.forall_mem_cons, Json.isScalar_iff, addVariables]
    cases hv : scalarText? value with
    | none => simp
    | some text => simpa using ih

theorem find?_of_addVariables {context : String} {members : List (String × Json)}
    {start scope : Bindings String} (hs : SortedByName members)
    (h : addVariables context start members = .ok scope) (name : String) :
    scope.find? name = ((members.lookup name).bind scalarText?).or (start.find? name) := by
  induction members generalizing start with
  | nil =>
    cases h
    rfl
  | cons member rest ih =>
    obtain ⟨first, value⟩ := member
    obtain ⟨hlt, hr⟩ := List.pairwise_cons.mp hs
    rw [addVariables] at h
    split at h
    next text ht =>
      rw [ih hr h, Bindings.find?_insert, Bindings.lookup_cons_eq]
      by_cases hn : name = first
      · subst hn
        simp [lookup_eq_none_of_lt hlt, ht]
      · simp [hn]
    next => cases h

theorem exists_variablesOf_iff {context : String} {value : Json} :
    (∃ scope, variablesOf context value = .ok scope) ↔ value.IsScope := by
  unfold variablesOf Json.IsScope
  cases value with
  | object members => simpa [Json.object?] using exists_addVariables_iff
  | _ => simp [Json.object?]

theorem find?_of_variablesOf {context : String} {value : Json} {scope : Bindings String}
    (ho : value.IsOrdered) (h : variablesOf context value = .ok scope) (name : String) :
    scope.find? name = value.text? name := by
  cases ho with
  | object hs _ =>
    rw [find?_of_addVariables hs h name]
    exact Option.or_none
  | _ => cases h

/-- The value of the first key, or else that of the second. -/
def Json.either? (members : List (String × Json)) (first second : String) : Option Json :=
  (members.lookup first).or (members.lookup second)

theorem either?_snoc {members : List (String × Json)} {key first second : String} {value : Json}
    (h : SortedByName (members ++ [(key, value)])) (hlt : second < first) :
    Json.either? (members ++ [(key, value)]) first second =
      if key = first ∨ key = second then some value else Json.either? members first second := by
  unfold Json.either?
  rw [lookup_snoc h, lookup_snoc h]
  by_cases hf : first = key
  · simp [hf]
  by_cases hs : second = key
  · subst hs
    -- the first key comes later in the order, so no earlier member has it
    have hn : members.lookup first = none := by
      refine List.lookup_eq_none_iff.mpr fun member hm => bne_iff_ne.mpr fun he => ?_
      exact String.lt_asymm hlt (he ▸ lt_of_sortedByName_snoc h member hm)
    simp [hf, hn]
  · simp [hf, hs, Ne.symm hf, Ne.symm hs]

theorem map_eq_ok_iff {ε α β : Type} {f : α → β} {result : Except ε α} {value : β} :
    result.map f = .ok value ↔ ∃ found, result = .ok found ∧ f found = value := by
  cases result <;> simp [Except.map]

namespace EnvironmentDocument

def sharedKeys : List String :=
  ["shared", "$shared"]

def activeKeys : List String :=
  ["active", "$active"]

/-- The keys that name no environment. -/
def reservedKeys : List String :=
  sharedKeys ++ activeKeys

/-- What a member of the root object has to be. -/
structure IsSoundMember (key : String) (value : Json) : Prop where
  name : key ∉ reservedKeys → IsEnvironmentName key
  scope : key ∉ activeKeys → value.IsScope

def IsSound (members : List (String × Json)) : Prop :=
  ∀ member ∈ members, IsSoundMember member.1 member.2

def sharedIn? (members : List (String × Json)) : Option Json :=
  Json.either? members "shared" "$shared"

def activeIn? (members : List (String × Json)) : Option String :=
  (Json.either? members "active" "$active").bind Json.string?

def environmentIn? (members : List (String × Json)) (name : String) : Option Json :=
  if name ∈ reservedKeys then none else members.lookup name

variable {document next : EnvironmentDocument} {key : String} {value : Json}
  {members : List (String × Json)}

theorem key_cases (key : String) : key ∈ sharedKeys ∨ key ∈ activeKeys ∨ key ∉ reservedKeys := by
  by_cases hs : key ∈ sharedKeys
  · exact .inl hs
  by_cases ha : key ∈ activeKeys
  · exact .inr (.inl ha)
  · exact .inr (.inr fun hr => (List.mem_append.mp hr).elim hs ha)

theorem not_mem_activeKeys (h : key ∈ sharedKeys) : key ∉ activeKeys := by
  have hdisjoint : ∀ key ∈ sharedKeys, key ∉ activeKeys := by decide
  exact hdisjoint key h

theorem addMember_shared (h : key ∈ sharedKeys) : document.addMember key value =
    (variablesOf "shared" value).map fun scope => { document with shared := scope } := by
  rw [addMember, if_pos (by simpa [sharedKeys] using h)]
  cases variablesOf "shared" value <;> rfl

theorem addMember_active (h : key ∈ activeKeys) :
    document.addMember key value = .ok { document with active := value.string? } := by
  have hs : key ∉ sharedKeys := fun hs => not_mem_activeKeys hs h
  rw [addMember, if_neg (by simpa [sharedKeys] using hs), if_pos (by simpa [activeKeys] using h)]

theorem addMember_other (h : key ∉ reservedKeys) : document.addMember key value =
    if isEnvironmentName key then
      (variablesOf key value).map fun scope =>
        { document with environments := document.environments.insert key scope }
    else .error (.badName key) := by
  obtain ⟨hs, ha⟩ := not_or.mp (mt List.mem_append.mpr h)
  rw [addMember, if_neg (by simpa [sharedKeys] using hs), if_neg (by simpa [activeKeys] using ha)]
  cases variablesOf key value <;> rfl

theorem exists_addMember_iff :
    (∃ next, document.addMember key value = .ok next) ↔ IsSoundMember key value := by
  have hmap {context : String} (f : Bindings String → EnvironmentDocument) :
      (∃ next, (variablesOf context value).map f = .ok next) ↔ value.IsScope := by
    rw [← @exists_variablesOf_iff context]
    constructor
    · rintro ⟨next, hn⟩
      obtain ⟨scope, hs, -⟩ := map_eq_ok_iff.mp hn
      exact ⟨scope, hs⟩
    · rintro ⟨scope, hs⟩
      exact ⟨f scope, map_eq_ok_iff.mpr ⟨scope, hs, rfl⟩⟩
  rcases key_cases key with hs | ha | hr
  · rw [addMember_shared hs, hmap]
    exact ⟨fun hv => ⟨fun hr => absurd (List.mem_append_left _ hs) hr, fun _ => hv⟩,
      fun hm => hm.scope (not_mem_activeKeys hs)⟩
  · rw [addMember_active ha]
    exact ⟨fun _ => ⟨fun hr => absurd (List.mem_append_right _ ha) hr, fun hn => absurd ha hn⟩,
      fun _ => ⟨_, rfl⟩⟩
  · rw [addMember_other hr]
    have ha : key ∉ activeKeys := fun ha => hr (List.mem_append_right _ ha)
    split
    next hn =>
      rw [hmap]
      exact ⟨fun hv => ⟨fun _ => (isEnvironmentName_iff key).mp hn, fun _ => hv⟩,
        fun hm => hm.scope ha⟩
    next hn =>
      constructor
      · rintro ⟨_, he⟩
        cases he
      · intro hm
        exact absurd ((isEnvironmentName_iff key).mpr (hm.name hr)) hn

/-- The document after the members of an object have been added in order. -/
def addMembers (document : EnvironmentDocument) (members : List (String × Json)) :
    Except DocumentFault EnvironmentDocument :=
  members.foldlM (fun document member => document.addMember member.1 member.2) document

theorem addMembers_cons (document : EnvironmentDocument) (key : String) (value : Json)
    (members : List (String × Json)) : document.addMembers ((key, value) :: members) =
      (document.addMember key value).bind fun next => next.addMembers members :=
  rfl

theorem exists_addMembers_iff :
    (∃ next, document.addMembers members = .ok next) ↔ IsSound members := by
  induction members generalizing document with
  | nil => exact ⟨fun _ member hm => absurd hm List.not_mem_nil, fun _ => ⟨document, rfl⟩⟩
  | cons member rest ih =>
    obtain ⟨key, value⟩ := member
    rw [addMembers_cons, IsSound, List.forall_mem_cons, ← @exists_addMember_iff document]
    cases document.addMember key value with
    | error fault => simp [Except.bind]
    | ok next => exact ih.trans (and_iff_right ⟨next, rfl⟩).symm

/-- The bindings of a scope are the members of an object, as text. -/
def Spells (scope : Bindings String) (value : Json) : Prop :=
  ∀ name, scope.find? name = value.text? name

/-- What the members of an object declare is what a document holds. -/
structure Reads (members : List (String × Json)) (document : EnvironmentDocument) : Prop where
  shared : ∀ name, document.shared.find? name = (sharedIn? members).bind (·.text? name)
  environments : ∀ name,
    Option.Rel Spells (document.environments.find? name) (environmentIn? members name)
  active : document.active = activeIn? members

theorem reads_empty : Reads [] empty where
  shared _ := rfl
  environments name := by
    have hn : environmentIn? [] name = none := ite_self none
    rw [hn]
    exact .none
  active := rfl

section Snoc

variable (h : SortedByName (members ++ [(key, value)]))

include h

theorem sharedIn?_snoc : sharedIn? (members ++ [(key, value)]) =
    if key ∈ sharedKeys then some value else sharedIn? members := by
  rw [sharedIn?, either?_snoc h (by decide)]
  simp [sharedKeys, sharedIn?]

theorem activeIn?_snoc : activeIn? (members ++ [(key, value)]) =
    if key ∈ activeKeys then value.string? else activeIn? members := by
  rw [activeIn?, either?_snoc h (by decide), apply_ite (Option.bind · Json.string?)]
  simp [activeKeys, activeIn?]

theorem environmentIn?_snoc_reserved (hr : key ∈ reservedKeys) (name : String) :
    environmentIn? (members ++ [(key, value)]) name = environmentIn? members name := by
  unfold environmentIn?
  split
  next => rfl
  next hn => rw [lookup_snoc h, if_neg (show name ≠ key from fun he => hn (he ▸ hr))]

theorem environmentIn?_snoc (hr : key ∉ reservedKeys) (name : String) :
    environmentIn? (members ++ [(key, value)]) name =
      if name = key then some value else environmentIn? members name := by
  unfold environmentIn?
  rw [lookup_snoc h]
  by_cases hn : name = key
  · simp [hn, hr]
  · simp [hn]

end Snoc

theorem Reads.snoc (hm : Reads members document) (hs : SortedByName (members ++ [(key, value)]))
    (ho : value.IsOrdered) (h : document.addMember key value = .ok next) :
    Reads (members ++ [(key, value)]) next := by
  rcases key_cases key with hk | hk | hk
  · have ha : key ∉ activeKeys := not_mem_activeKeys hk
    rw [addMember_shared hk] at h
    obtain ⟨scope, hv, rfl⟩ := map_eq_ok_iff.mp h
    refine ⟨fun name => ?_, fun name => ?_, ?_⟩
    · rw [sharedIn?_snoc hs, if_pos hk]
      exact find?_of_variablesOf ho hv name
    · rw [environmentIn?_snoc_reserved hs (List.mem_append_left _ hk)]
      exact hm.environments name
    · rw [activeIn?_snoc hs, if_neg ha]
      exact hm.active
  · have hn : key ∉ sharedKeys := fun hn => not_mem_activeKeys hn hk
    rw [addMember_active hk] at h
    cases h
    refine ⟨fun name => ?_, fun name => ?_, ?_⟩
    · rw [sharedIn?_snoc hs, if_neg hn]
      exact hm.shared name
    · rw [environmentIn?_snoc_reserved hs (List.mem_append_right _ hk)]
      exact hm.environments name
    · rw [activeIn?_snoc hs, if_pos hk]
  · obtain ⟨hn, ha⟩ := not_or.mp (mt List.mem_append.mpr hk)
    rw [addMember_other hk] at h
    split at h
    next =>
      obtain ⟨scope, hv, rfl⟩ := map_eq_ok_iff.mp h
      refine ⟨fun name => ?_, fun name => ?_, ?_⟩
      · rw [sharedIn?_snoc hs, if_neg hn]
        exact hm.shared name
      · rw [environmentIn?_snoc hs hk, Bindings.find?_insert]
        split
        next => exact .some (find?_of_variablesOf ho hv)
        next => exact hm.environments name
      · rw [activeIn?_snoc hs, if_neg ha]
        exact hm.active
    next => cases h

theorem Reads.run {before : List (String × Json)} (hb : Reads before document)
    (hs : SortedByName (before ++ members)) (ho : ∀ member ∈ members, member.2.IsOrdered)
    (h : document.addMembers members = .ok next) : Reads (before ++ members) next := by
  -- what has been read moves from the members to `before`, so the order holds of all of them
  induction members generalizing before document with
  | nil =>
    cases h
    rwa [List.append_nil]
  | cons member rest ih =>
    obtain ⟨key, value⟩ := member
    obtain ⟨hv, hr⟩ := List.forall_mem_cons.mp ho
    rw [List.append_cons] at hs ⊢
    rw [addMembers_cons] at h
    cases hf : document.addMember key value with
    | error fault =>
      rw [hf] at h
      cases h
    | ok first =>
      rw [hf] at h
      exact ih (hb.snoc (hs.sublist (List.sublist_append_left _ _)) hv hf) hs hr h

theorem exists_ofJson_iff : (∃ document, ofJson value = .ok document) ↔
    ∃ members, value = .object members ∧ IsSound members := by
  cases value with
  | object members =>
    refine (@exists_addMembers_iff empty members).trans ⟨fun hm => ⟨members, rfl, hm⟩, ?_⟩
    rintro ⟨_, he, hm⟩
    cases he
    exact hm
  | _ =>
    constructor
    · rintro ⟨_, h⟩
      cases h
    · rintro ⟨_, h, -⟩
      cases h

theorem reads_of_ofJson (ho : (Json.object members).IsOrdered)
    (h : ofJson (.object members) = .ok document) : Reads members document := by
  cases ho with
  | object hs hm => exact reads_empty.run hs hm h

end EnvironmentDocument

end RequestScript
