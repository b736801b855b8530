import RequestScript.Json.Printer
import RequestScript.Json.Record

namespace RequestScript.Json

/-- Whether a value can give fields: an object that has none of them twice, or an array that is
not longer than they are. -/
def HasFields (names : List String) : Json → Prop
  | .object members => ∀ name ∈ names, members.countP (fun member => member.1 == name) ≤ 1
  | .array items => items.length ≤ names.length
  | _ => False

/-- What a value gives for a field: its member of that name, or its item in that place. -/
def field? (value : Json) (place : Nat) (name : String) : Option Json :=
  match value with
  | .object members => members.lookup name
  | .array items => items[place]?
  | _ => none

/-- A field is what is given for it in the form that `write` has, or else as when nothing is. -/
def Takes {α : Type} (write : α → Json) (absent : α) (given : Option Json) (value : α) : Prop :=
  match given with
  | none => value = absent
  | some json => json = write value

theorem itemsToRaw_eq_map (items : List Json) : itemsToRaw items = items.map toRaw := by
  induction items with
  | nil => rfl
  | cons item rest ih => rw [itemsToRaw, ih, List.map_cons]

theorem membersToRaw_eq_map (members : List (String × Json)) :
    membersToRaw members = members.map fun member => (some member.1, member.2.toRaw) := by
  induction members with
  | nil => rfl
  | cons member rest ih => rw [membersToRaw, ih, List.map_cons]

theorem filter_membersToRaw (members : List (String × Json)) (name : String) :
    (membersToRaw members).filter (fun member => member.1 == some name) =
      membersToRaw (members.filter fun member => member.1 == name) := by
  rw [membersToRaw_eq_map, membersToRaw_eq_map, List.filter_map]
  rfl

theorem lookup_eq_head?_filter (members : List (String × Json)) (name : String) :
    members.lookup name =
      ((members.filter fun member => member.1 == name).head?).map Prod.snd := by
  induction members with
  | nil => rfl
  | cons member rest ih =>
    obtain ⟨other, value⟩ := member
    by_cases ho : other = name
    · simp [ho]
    · have hn : (name == other) = false := by simpa using Ne.symm ho
      simp [List.lookup_cons, ho, hn, ih]

theorem soleMember?_eq_some_iff {members : List (String × Json)} {name : String}
    {value : Option Raw} : Raw.soleMember? (membersToRaw members) name = some value ↔
      members.countP (fun member => member.1 == name) ≤ 1 ∧
        value = (members.lookup name).map toRaw := by
  unfold Raw.soleMember?
  rw [filter_membersToRaw, lookup_eq_head?_filter, List.countP_eq_length_filter]
  cases members.filter fun member => member.1 == name with
  | nil => simp [membersToRaw, eq_comm]
  | cons first rest =>
    cases rest with
    | nil => simp [membersToRaw, eq_comm]
    | cons second rest => simp [membersToRaw]

theorem mapM_soleMember?_eq_some_iff {members : List (String × Json)} {names : List String}
    {values : List (Option Raw)} :
    names.mapM (Raw.soleMember? (membersToRaw members)) = some values ↔
      (∀ name ∈ names, members.countP (fun member => member.1 == name) ≤ 1) ∧
        values = names.map fun name => (members.lookup name).map toRaw := by
  induction names generalizing values with
  | nil => simp [eq_comm]
  | cons name rest ih =>
    simp only [List.mapM_cons, Option.bind_eq_bind, Option.bind_eq_some_iff, ih,
      soleMember?_eq_some_iff, List.forall_mem_cons, List.map_cons]
    constructor
    · rintro ⟨first, ⟨hf, rfl⟩, others, ⟨hr, rfl⟩, hv⟩
      exact ⟨⟨hf, hr⟩, (Option.some.inj hv).symm⟩
    · rintro ⟨⟨hf, hr⟩, rfl⟩
      exact ⟨_, ⟨hf, rfl⟩, _, ⟨hr, rfl⟩, rfl⟩

theorem map_append_replicate (items : List Json) (names : List String)
    (h : items.length ≤ names.length) :
    (items.map toRaw).map some ++ List.replicate (names.length - items.length) none =
      names.mapIdx fun place _ => items[place]?.map toRaw := by
  apply List.ext_getElem
  · simp
    omega
  · intro place hp hn
    by_cases hi : place < items.length
    · simp [hi]
    · simp [List.getElem_append, hi]

theorem fields?_eq_some_iff {names : List String} {json : Json} {values : List (Option Raw)} :
    Raw.fields? names json.toRaw = some values ↔ json.HasFields names ∧
      values = names.mapIdx fun place name => (json.field? place name).map toRaw := by
  cases json with
  | object members =>
    have ha : (membersToRaw members).all (fun member => member.1.isSome) = true := by
      simp [membersToRaw_eq_map]
    have hm : (names.mapIdx fun _ name => (members.lookup name).map toRaw) =
        names.map fun name => (members.lookup name).map toRaw := by
      apply List.ext_getElem <;> simp
    simp only [toRaw, Raw.fields?, ha, if_true, mapM_soleMember?_eq_some_iff, HasFields, field?, hm]
  | array items =>
    simp only [toRaw, Raw.fields?, itemsToRaw_eq_map, List.length_map, HasFields, field?]
    split
    next h =>
      rw [map_append_replicate items names h]
      simp [h, eq_comm]
    next h => simp [h]
  | _ => simp [toRaw, Raw.fields?, HasFields]

section

variable {json : Json}

theorem string?_eq_some_iff {value : String} :
    json.toRaw.string? = some value ↔ json = .string value := by
  cases json <;> simp [toRaw, Raw.string?]

theorem strings?_eq_some_iff {values : List String} :
    json.toRaw.strings? = some values ↔ json = .array (values.map .string) := by
  cases json with
  | array items =>
    simp only [toRaw, Raw.strings?, itemsToRaw_eq_map, array.injEq]
    induction items generalizing values with
    | nil => cases values <;> simp
    | cons item rest ih =>
      simp only [List.map_cons, List.mapM_cons, Option.bind_eq_bind, Option.bind_eq_some_iff,
        string?_eq_some_iff, ih]
      constructor
      · rintro ⟨first, rfl, others, rfl, hv⟩
        rw [← Option.some.inj hv, List.map_cons]
      · intro hv
        cases values with
        | nil => cases hv
        | cons first others =>
          obtain ⟨rfl, rfl⟩ := List.cons.inj hv
          exact ⟨first, rfl, others, rfl, rfl⟩
  | _ => simp [toRaw, Raw.strings?]

theorem natural?_eq_some_iff {value : Nat} :
    json.toRaw.natural? = some value ↔ json = .number (.integer value) := by
  cases json with
  | number number =>
    cases number with
    | integer n =>
      cases n with
      | ofNat m =>
        simp only [toRaw, Raw.natural?, Number.natural?, Option.some.injEq, number.injEq,
          Number.integer.injEq]
        exact Int.ofNat_inj.symm
      | negSucc m => simp [toRaw, Raw.natural?, Number.natural?]
    | float negative magnitude => simp [toRaw, Raw.natural?, Number.natural?]
  | _ => simp [toRaw, Raw.natural?]

theorem fieldOr_eq_some_iff {α : Type} {read? : Raw → Option α} {write : α → Json}
    (h : ∀ json value, read? json.toRaw = some value ↔ json = write value) {absent value : α}
    {given : Option Json} :
    Raw.fieldOr read? absent (given.map toRaw) = some value ↔ Takes write absent given value := by
  cases given with
  | none => simp [Raw.fieldOr, Takes, eq_comm]
  | some json => exact h json value

end

end RequestScript.Json
