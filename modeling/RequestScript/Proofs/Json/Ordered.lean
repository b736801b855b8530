import RequestScript.Json.Reader

namespace RequestScript.Json

/-- In the value and in all its parts the members of an object stand under distinct names, in the
order of the names. -/
inductive IsOrdered : Json → Prop
  | null : IsOrdered .null
  | bool (value : Bool) : IsOrdered (.bool value)
  | number (value : Number) : IsOrdered (.number value)
  | string (value : String) : IsOrdered (.string value)
  | array {items : List Json} (h : ∀ item ∈ items, IsOrdered item) : IsOrdered (.array items)
  | object {members : List (String × Json)} (hs : SortedByName members)
      (hm : ∀ member ∈ members, IsOrdered member.2) : IsOrdered (.object members)

mutual

theorem value?_isOrdered {depth : Nat} : (raw : Raw) → {value : Json} →
    raw.value? depth = some value → value.IsOrdered
  | .null, _, h => by
    cases h
    exact .null
  | .bool _, _, h => by
    cases h
    exact .bool _
  | .number _, _, h => by
    obtain ⟨number, -, rfl⟩ := Option.map_eq_some_iff.mp h
    exact .number number
  | .string _, _, h => by
    obtain ⟨text, -, rfl⟩ := Option.map_eq_some_iff.mp h
    exact .string text
  | .array items, _, h => by
    rw [Raw.value?] at h
    split at h
    next => cases h
    next =>
      obtain ⟨values, hv, rfl⟩ := Option.map_eq_some_iff.mp h
      exact .array (items?_isOrdered items hv)
  | .object members, _, h => by
    rw [Raw.value?] at h
    split at h
    next => cases h
    next =>
      obtain ⟨after, ha, rfl⟩ := Option.map_eq_some_iff.mp h
      have hempty : ∀ member ∈ ([] : List (String × Json)), member.2.IsOrdered :=
        fun member hm => absurd hm List.not_mem_nil
      obtain ⟨hs, hm⟩ := members?_isOrdered members List.Pairwise.nil hempty ha
      exact .object hs hm

theorem items?_isOrdered {depth : Nat} : (items : List Raw) → {values : List Json} →
    Raw.items? depth items = some values → ∀ value ∈ values, value.IsOrdered
  | [], _, h => by
    cases h
    exact fun value hv => absurd hv List.not_mem_nil
  | item :: items, _, h => by
    simp only [Raw.items?, Option.bind_eq_bind, Option.bind_eq_some_iff, Option.some.injEq] at h
    obtain ⟨first, hf, rest, hr, rfl⟩ := h
    exact List.forall_mem_cons.mpr ⟨value?_isOrdered item hf, items?_isOrdered items hr⟩

theorem members?_isOrdered {depth : Nat} : (members : List (Option String × Raw)) →
    {before after : List (String × Json)} → SortedByName before →
    (∀ member ∈ before, member.2.IsOrdered) → Raw.members? depth before members = some after →
    SortedByName after ∧ ∀ member ∈ after, member.2.IsOrdered
  | [], _, _, hs, hb, h => by
    cases h
    exact ⟨hs, hb⟩
  | (name, item) :: members, _, _, hs, hb, h => by
    simp only [Raw.members?, Option.bind_eq_bind, Option.bind_eq_some_iff] at h
    obtain ⟨value, hv, key, -, hr⟩ := h
    refine members?_isOrdered members (sortedByName_insertByName hs) (fun member hm => ?_) hr
    rcases mem_insertByName hm with rfl | hm
    · exact value?_isOrdered item hv
    · exact hb member hm

end

/-- Whatever order a text writes members in, and how often, its value has them in order. -/
theorem isOrdered_of_read? {text : String} {value : Json} (h : read? text = some value) :
    value.IsOrdered := by
  obtain ⟨raw, -, hv⟩ := Option.bind_eq_some_iff.mp h
  exact value?_isOrdered raw hv

/-- An object with a member in place of an earlier one of that name. -/
def withMember (value : Json) (name : String) (member : Json) : Json :=
  match value with
  | .object members => .object (insertByName name member members)
  | value => value

theorem isOrdered_withMember {value member : Json} (h : value.IsOrdered) (name : String)
    (hm : member.IsOrdered) : (value.withMember name member).IsOrdered := by
  cases h with
  | object hs ho =>
    refine .object (sortedByName_insertByName hs) fun other hother => ?_
    rcases mem_insertByName hother with rfl | hold
    · exact hm
    · exact ho other hold
  | null => exact .null
  | bool value => exact .bool value
  | number value => exact .number value
  | string value => exact .string value
  | array hi => exact .array hi

end RequestScript.Json
