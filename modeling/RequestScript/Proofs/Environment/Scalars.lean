import RequestScript.Proofs.Environment.Selection
import RequestScript.Proofs.Word.Coercion

namespace RequestScript

namespace EnvironmentDocument

variable {members : List (String × Json)} {selection : Option String} {env : Environment String}
  {name text : String} {value : Json}

/-- The value of a name in the selected environment, or else in the shared scope. -/
def valueIn? (members : List (String × Json)) (selection : Option String) (name : String) :
    Option Json :=
  ((selection.bind (environmentIn? members)).bind (·.member? name)).or
    ((sharedIn? members).bind (·.member? name))

theorem bind_text? (scope : Option Json) (name : String) :
    (scope.bind fun value => value.text? name) =
      (scope.bind fun value => value.member? name).bind scalarText? :=
  (Option.bind_assoc scope _ _).symm

theorem textIn?_of_valueIn? (hv : valueIn? members selection name = some value)
    (ht : scalarText? value = some text) : textIn? members selection name = some text := by
  unfold valueIn? at hv
  unfold textIn?
  rw [bind_text?, bind_text?]
  rcases Option.or_eq_some_iff.mp hv with hs | ⟨hn, hs⟩
  · rw [hs, Option.bind_some, ht, Option.some_or]
  · rw [hn, hs, Option.bind_none, Option.none_or, Option.bind_some, ht]

/-- A name expands to the text of its value in the document. -/
theorem Loads.expand (hl : Loads members selection env)
    (hv : valueIn? members selection name = some value) (ht : scalarText? value = some text) :
    (Word.reference name).expand env = .ok text := by
  have hr := hl.resolve name
  rw [textIn?_of_valueIn? hv ht] at hr
  rw [Word.expand, hr]
  rfl

end EnvironmentDocument

namespace Word

variable {word : Word} {env : Environment String} {text : String}

theorem expandBool_of_expand (h : word.expand env = .ok text) :
    word.expandBool env = coerceBool text := by
  rw [expandBool, h]
  rfl

theorem expandInt_of_expand (h : word.expand env = .ok text) :
    word.expandInt env = coerceInt text := by
  rw [expandInt, h]
  rfl

end Word

theorem scalarText?_integer (n : Int) :
    scalarText? (.number (.integer n)) = some (toString n) := by
  rw [scalarText?, Json.Number.toText, String.ofList_toList]

/-- What the text of a truth value is, is read as it. -/
theorem coerceBool_scalarText? {b : Bool} {text : String} (h : scalarText? (.bool b) = some text) :
    coerceBool text = .ok b := by
  cases b with
  | false =>
    cases h
    rfl
  | true =>
    cases h
    rfl

namespace Environment

open EnvironmentDocument

/-- Scalars come through a document as they are. A name that has an integer there, in the selected
environment or else in the shared scope, expands to its decimal form and is read as this integer if
64 bits can hold it with its sign. One that has a truth value is read as this, one that has a string
expands to it, and one that has nothing expands to the empty text, which is neither a truth value nor
an integer. -/
theorem scalars_survive {members : List (String × Json)} {explicit : Option String}
    {env : Environment String} {name : String} {value : Json}
    (h : (Json.object members).IsOrdered) (he : ofJson (.object members) explicit = .ok env)
    (hv : valueIn? members (selection? members explicit) name = some value) :
    let word := Word.reference name
    (∀ n, value = .number (.integer n) → word.expand env = .ok (toString n) ∧
      word.expandInt env =
        if -2 ^ 63 ≤ n ∧ n ≤ 2 ^ 63 - 1 then .ok n else .error (.notInt (toString n))) ∧
    (∀ b, value = .bool b → word.expandBool env = .ok b) ∧
    (∀ text, value = .string text → word.expand env = .ok text) ∧
    (value = .null → word.expand env = .ok "" ∧ word.expandBool env = .error (.notBool "") ∧
      word.expandInt env = .error (.notInt "")) := by
  intro word
  have hl : Loads members (selection? members explicit) env := loads_of_ofJson h he
  refine ⟨?_, ?_, ?_, ?_⟩
  · rintro n rfl
    have hx := hl.expand hv (scalarText?_integer n)
    exact ⟨hx, (Word.expandInt_of_expand hx).trans (coerceInt_toString n)⟩
  · rintro b rfl
    obtain ⟨text, ht⟩ : ∃ text, scalarText? (.bool b) = some text := by
      cases b <;> exact ⟨_, rfl⟩
    rw [Word.expandBool_of_expand (hl.expand hv ht), coerceBool_scalarText? ht]
  · rintro text rfl
    exact hl.expand hv rfl
  · rintro rfl
    have hx := hl.expand hv (show scalarText? .null = some "" from rfl)
    rw [Word.expandBool_of_expand hx, Word.expandInt_of_expand hx]
    exact ⟨hx, rfl, rfl⟩

/-- A document with a value of each kind, and with integers at both ends of what it can store. -/
def scalarDocument : Json :=
  .object [("active", .string "dev"),
    ("dev", .object [("debug", .bool true), ("limit", .number (.integer 18446744073709551615)),
      ("low", .number (.integer (-9223372036854775808))), ("note", .null)]),
    ("shared", .object [("host", .string "example.com"), ("limit", .number (.integer 10))])]

theorem scalars_survive_scalarDocument : scalarDocument.IsOrdered ∧
    ∃ env, ofJson scalarDocument none = .ok env ∧
      (Word.reference "limit").expandInt env = .error (.notInt "18446744073709551615") ∧
      (Word.reference "low").expandInt env = .ok (-9223372036854775808) ∧
      (Word.reference "debug").expandBool env = .ok true ∧
      (Word.reference "host").expand env = .ok "example.com" ∧
      (Word.reference "note").expandInt env = .error (.notInt "") := by
  have h : scalarDocument.IsOrdered := by
    refine .object (by unfold SortedByName; decide) ?_
    simp only [List.forall_mem_cons]
    refine ⟨.string _, .object (by unfold SortedByName; decide) ?_,
      .object (by unfold SortedByName; decide) ?_, fun _ hm => absurd hm List.not_mem_nil⟩
    · simp only [List.forall_mem_cons]
      exact ⟨.bool _, .number _, .number _, .null, fun _ hm => absurd hm List.not_mem_nil⟩
    · simp only [List.forall_mem_cons]
      exact ⟨.string _, .number _, fun _ hm => absurd hm List.not_mem_nil⟩
  obtain ⟨env, he⟩ : ∃ env, ofJson scalarDocument none = .ok env := ⟨_, rfl⟩
  obtain ⟨hlimit, -⟩ := @scalars_survive _ none env "limit" _ h he rfl
  obtain ⟨hlow, -⟩ := @scalars_survive _ none env "low" _ h he rfl
  obtain ⟨-, hdebug, -⟩ := @scalars_survive _ none env "debug" _ h he rfl
  obtain ⟨-, -, hhost, -⟩ := @scalars_survive _ none env "host" _ h he rfl
  obtain ⟨-, -, -, hnote⟩ := @scalars_survive _ none env "note" _ h he rfl
  exact ⟨h, env, he, (hlimit _ rfl).2, (hlow _ rfl).2, hdebug _ rfl, hhost _ rfl, (hnote rfl).2.2⟩

end Environment

end RequestScript
