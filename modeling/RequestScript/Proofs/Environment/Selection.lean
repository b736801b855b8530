import RequestScript.Proofs.Environment
import RequestScript.Proofs.Environment.Document

namespace RequestScript

namespace EnvironmentDocument

variable {document : EnvironmentDocument} {value : Json} {members : List (String × Json)}

/-- The name that is asked for, or else the one that the members of a document give. -/
def selection? (members : List (String × Json)) (explicit : Option String) : Option String :=
  explicit.or (activeIn? members)

/-- The text of a name in the selected environment, or else in the shared scope. -/
def textIn? (members : List (String × Json)) (selection : Option String) (name : String) :
    Option String :=
  ((selection.bind (environmentIn? members)).bind (·.text? name)).or
    ((sharedIn? members).bind (·.text? name))

/-- An environment says what a selection among the members of a document does. -/
structure Loads (members : List (String × Json)) (selection : Option String)
    (env : Environment String) : Prop where
  resolve : ∀ name, env.resolve name = (textIn? members selection name).elim (.error ⟨name⟩) .ok
  depth : env.depth = if selection.isSome then 1 else 0

theorem Reads.loads_shared (hm : Reads members document) :
    Loads members none ⟨document.shared, []⟩ where
  resolve name := by
    rw [Environment.resolve_eq_elim, textIn?, Option.bind_none, Option.bind_none, Option.none_or,
      ← hm.shared, Environment.find?, Environment.scopes, List.findSome?_singleton]
  depth := rfl

theorem Reads.loads_environment {scope : Bindings String} {selected : String}
    (hm : Reads members document) (he : environmentIn? members selected = some value)
    (hs : Spells scope value) : Loads members (some selected) ⟨scope, [document.shared]⟩ where
  resolve name := by
    rw [Environment.resolve_eq_elim, textIn?, Option.bind_some, he, Option.bind_some, ← hs,
      ← hm.shared, Environment.find?, Environment.scopes, List.findSome?_cons,
      List.findSome?_singleton]
    cases scope.find? name <;> rfl
  depth := rfl

theorem Reads.select_cases (hm : Reads members document) (explicit : Option String) :
    (∃ env, document.select explicit = .ok env ∧
      Loads members (selection? members explicit) env ∧
      ∀ name, selection? members explicit = some name → (environmentIn? members name).isSome) ∨
    ∃ name, selection? members explicit = some name ∧ environmentIn? members name = none ∧
      document.select explicit = .error (.unknownEnvironment name) := by
  have hor : explicit.or document.active = selection? members explicit := by rw [hm.active]; rfl
  simp only [select, hor]
  cases selection? members explicit with
  | none => exact .inl ⟨_, rfl, hm.loads_shared, fun _ hn => by cases hn⟩
  | some selected =>
    have he := hm.environments selected
    generalize hf : document.environments.find? selected = found,
      hv : environmentIn? members selected = value at he
    simp only [hf]
    cases he with
    | none => exact .inr ⟨selected, rfl, hv, rfl⟩
    | some hs =>
      refine .inl ⟨_, rfl, hm.loads_environment hv hs, ?_⟩
      rintro _ ⟨⟩
      rw [hv]
      rfl

/-- The document without the name that it makes active. -/
def unnamed (document : EnvironmentDocument) : EnvironmentDocument :=
  { document with active := none }

/-- Members that name the active environment change nothing else, faults included. -/
theorem addMembers_unnamed : (document.addMembers members).map unnamed =
    document.unnamed.addMembers (members.filter fun member => member.1 ∉ activeKeys) := by
  induction members generalizing document with
  | nil => rfl
  | cons member rest ih =>
    obtain ⟨key, value⟩ := member
    rw [addMembers_cons, List.filter_cons]
    rcases key_cases key with hk | hk | hk
    · rw [if_pos (by simpa using not_mem_activeKeys hk), addMembers_cons, addMember_shared hk,
        addMember_shared hk]
      cases variablesOf "shared" value with
      | error fault => rfl
      | ok scope => exact ih
    · rw [if_neg (by simpa using hk), addMember_active hk]
      exact ih
    · have ha : key ∉ activeKeys := fun ha => hk (List.mem_append_right _ ha)
      rw [if_pos (by simpa using ha), addMembers_cons, addMember_other hk, addMember_other hk]
      split
      next =>
        cases variablesOf key value with
        | error fault => rfl
        | ok scope => exact ih
      next => rfl

theorem ofJson_withActive_unnamed (value active : Json) :
    (ofJson (value.withMember "active" active)).map unnamed = (ofJson value).map unnamed := by
  cases value with
  | object members =>
    have hp : ∀ pairs : List (String × Json), (ofJson (.object pairs)).map unnamed =
        empty.unnamed.addMembers (pairs.filter fun member => member.1 ∉ activeKeys) :=
      fun pairs => addMembers_unnamed
    rw [Json.withMember, hp, hp, filter_insertByName (· ∉ activeKeys) (by decide)]
  | _ => rfl

theorem active_of_ofJson_withActive {name : String} (hv : value.IsOrdered)
    (h : ofJson (value.withMember "active" (.string name)) = .ok document) :
    document.active = some name := by
  have ho := Json.isOrdered_withMember hv "active" (.string name)
  cases hv with
  | @object members hs _ =>
    have hfind : (insertByName "active" (Json.string name) members).lookup "active" =
        some (.string name) :=
      (Bindings.find?_insert ⟨members, hs⟩ "active" "active" (.string name)).trans (if_pos rfl)
    rw [(reads_of_ofJson ho h).active, activeIn?, Json.either?, hfind]
    rfl
  | _ => cases h

end EnvironmentDocument

namespace Environment

open EnvironmentDocument

theorem ofJson_of_ok {value : Json} {document : EnvironmentDocument}
    (h : EnvironmentDocument.ofJson value = .ok document) (name : Option String) :
    ofJson value name = document.select name := by
  rw [ofJson, h]
  rfl

theorem ofJson_of_error {value : Json} {fault : DocumentFault}
    (h : EnvironmentDocument.ofJson value = .error fault) (name : Option String) :
    ofJson value name = .error (.badForm fault) := by
  rw [ofJson, h]
  rfl

theorem ofJson_some (value : Json) (name : String) : ofJson value (some name) =
    (((EnvironmentDocument.ofJson value).map unnamed).mapError .badForm).bind
      fun document => document.select (some name) := by
  rw [ofJson]
  cases EnvironmentDocument.ofJson value <;> rfl

theorem ofJson_withActive {value : Json} (h : value.IsOrdered) (name : String) :
    ofJson (value.withMember "active" (.string name)) none = ofJson value (some name) := by
  have hsome : ofJson (value.withMember "active" (.string name)) none =
      ofJson (value.withMember "active" (.string name)) (some name) := by
    cases ha : EnvironmentDocument.ofJson (value.withMember "active" (.string name)) with
    | error fault => rw [ofJson_of_error ha, ofJson_of_error ha]
    | ok document =>
      rw [ofJson_of_ok ha, ofJson_of_ok ha, select, active_of_ofJson_withActive h ha]
      rfl
  rw [hsome, ofJson_some, ofJson_some, ofJson_withActive_unnamed]

/-- A document is of another form, or it is asked for an environment that it has not, or it gives
one. -/
theorem ofJson_cases {document : Json} (h : document.IsOrdered) (explicit : Option String) :
    ((¬ ∃ members, document = .object members ∧ IsSound members) ∧
      ∃ fault, ofJson document explicit = .error (.badForm fault)) ∨
    ∃ members, document = .object members ∧ IsSound members ∧
      ((∃ env, ofJson document explicit = .ok env ∧
        Loads members (selection? members explicit) env ∧
        ∀ name, selection? members explicit = some name → (environmentIn? members name).isSome) ∨
      ∃ name, selection? members explicit = some name ∧ environmentIn? members name = none ∧
        ofJson document explicit = .error (.unknownEnvironment name)) := by
  cases hd : EnvironmentDocument.ofJson document with
  | error fault =>
    refine .inl ⟨fun hm => ?_, fault, ofJson_of_error hd explicit⟩
    obtain ⟨found, hf⟩ := exists_ofJson_iff.mpr hm
    rw [hd] at hf
    cases hf
  | ok found =>
    obtain ⟨members, rfl, hm⟩ := exists_ofJson_iff.mp ⟨found, hd⟩
    refine .inr ⟨members, rfl, hm, ?_⟩
    rw [ofJson_of_ok hd]
    exact (reads_of_ofJson h hd).select_cases explicit

theorem exists_loaded_iff {document : Json} (h : document.IsOrdered) (explicit : Option String) :
    (∃ env, ofJson document explicit = .ok env) ↔
      ∃ members, document = .object members ∧ IsSound members ∧
        ∀ name, selection? members explicit = some name → (environmentIn? members name).isSome := by
  rcases ofJson_cases h explicit with ⟨hn, fault, hf⟩ | ⟨members, rfl, hm, hc⟩
  · rw [hf]
    constructor
    · rintro ⟨_, ⟨⟩⟩
    · rintro ⟨members, hd, hm, -⟩
      exact absurd ⟨members, hd, hm⟩ hn
  · rcases hc with ⟨env, he, -, hs⟩ | ⟨name, hs, hv, hf⟩
    · exact ⟨fun _ => ⟨members, rfl, hm, hs⟩, fun _ => ⟨env, he⟩⟩
    · rw [hf]
      constructor
      · rintro ⟨_, ⟨⟩⟩
      · rintro ⟨_, ⟨⟩, -, hd⟩
        have hsome := hd name hs
        rw [hv] at hsome
        cases hsome

theorem loads_of_ofJson {members : List (String × Json)} {explicit : Option String}
    {env : Environment String} (h : (Json.object members).IsOrdered)
    (he : ofJson (.object members) explicit = .ok env) :
    Loads members (selection? members explicit) env := by
  rcases ofJson_cases h explicit with ⟨-, fault, hf⟩ | ⟨_, ⟨⟩, -, hc⟩
  · rw [hf] at he
    cases he
  · rcases hc with ⟨other, ho, hl, -⟩ | ⟨name, -, -, hf⟩
    · rw [ho] at he
      cases he
      exact hl
    · rw [hf] at he
      cases he

theorem badForm_iff {document : Json} (h : document.IsOrdered) (explicit : Option String) :
    (∃ fault, ofJson document explicit = .error (.badForm fault)) ↔
      ¬ ∃ members, document = .object members ∧ IsSound members := by
  rcases ofJson_cases h explicit with ⟨hn, hf⟩ | ⟨members, rfl, hm, hc⟩
  · exact ⟨fun _ => hn, fun _ => hf⟩
  · refine ⟨?_, fun hn => absurd ⟨members, rfl, hm⟩ hn⟩
    rintro ⟨fault, hf⟩
    rcases hc with ⟨env, he, -, -⟩ | ⟨name, -, -, he⟩
    · rw [he] at hf
      cases hf
    · rw [he] at hf
      cases hf

theorem unknownEnvironment_iff {document : Json} (h : document.IsOrdered)
    (explicit : Option String) (name : String) :
    ofJson document explicit = .error (.unknownEnvironment name) ↔
      ∃ members, document = .object members ∧ IsSound members ∧
        selection? members explicit = some name ∧ environmentIn? members name = none := by
  rcases ofJson_cases h explicit with ⟨hn, fault, hf⟩ | ⟨members, rfl, hm, hc⟩
  · rw [hf]
    constructor
    · rintro ⟨⟩
    · rintro ⟨members, hd, hm, -⟩
      exact absurd ⟨members, hd, hm⟩ hn
  · rcases hc with ⟨env, he, -, hs⟩ | ⟨other, hs, hv, he⟩
    · rw [he]
      constructor
      · rintro ⟨⟩
      · rintro ⟨_, ⟨⟩, -, hn, hv⟩
        have hsome := hs name hn
        rw [hv] at hsome
        cases hsome
    · rw [he]
      constructor
      · rintro ⟨⟩
        exact ⟨members, rfl, hm, hs, hv⟩
      · rintro ⟨_, ⟨⟩, -, hn, -⟩
        rw [hs] at hn
        cases hn
        rfl

/-- A document declares an environment exactly if it is an object of the right form that has the
selected one, and the environment then has the texts of that one over those of the shared scope. A
document of another form is refused for its form, whatever is selected, and to ask for an
environment is the same as to make it the active one. All documents that are read are ordered, by
`Json.isOrdered_of_read?`. -/
theorem loads_as_declared {document : Json} (h : document.IsOrdered) (explicit : Option String) :
    ((∃ env, ofJson document explicit = .ok env) ↔
      ∃ members, document = .object members ∧ IsSound members ∧
        ∀ name, selection? members explicit = some name → (environmentIn? members name).isSome) ∧
    (∀ members env, document = .object members → ofJson document explicit = .ok env →
      Loads members (selection? members explicit) env) ∧
    ((∃ fault, ofJson document explicit = .error (.badForm fault)) ↔
      ¬ ∃ members, document = .object members ∧ IsSound members) ∧
    (∀ name, ofJson document explicit = .error (.unknownEnvironment name) ↔
      ∃ members, document = .object members ∧ IsSound members ∧
        selection? members explicit = some name ∧ environmentIn? members name = none) ∧
    ∀ name, ofJson (document.withMember "active" (.string name)) none =
      ofJson document (some name) := by
  refine ⟨exists_loaded_iff h explicit, ?_, badForm_iff h explicit,
    unknownEnvironment_iff h explicit, ofJson_withActive h⟩
  rintro members env rfl he
  exact loads_of_ofJson h he

/-- A document that makes one of its environments active. -/
def sampleDocument : Json :=
  .object [("active", .string "dev"),
    ("dev", .object [("host", .string "localhost"), ("port", .number (.integer 3000))]),
    ("shared", .object [("host", .string "example.com"), ("version", .string "v1")])]

theorem sampleDocument_loads : sampleDocument.IsOrdered ∧
    ∃ env, ofJson sampleDocument none = .ok env ∧ env.resolve "host" = .ok "localhost" ∧
      env.resolve "version" = .ok "v1" ∧ env.depth = 1 := by
  have h : sampleDocument.IsOrdered := by
    refine .object (by unfold SortedByName; decide) ?_
    simp only [List.forall_mem_cons]
    refine ⟨.string _, .object (by unfold SortedByName; decide) ?_,
      .object (by unfold SortedByName; decide) ?_, fun _ hm => absurd hm List.not_mem_nil⟩
    · simp only [List.forall_mem_cons]
      exact ⟨.string _, .number _, fun _ hm => absurd hm List.not_mem_nil⟩
    · simp only [List.forall_mem_cons]
      exact ⟨.string _, .string _, fun _ hm => absurd hm List.not_mem_nil⟩
  obtain ⟨hok, hloads, -⟩ := loads_as_declared h none
  have hd : ∃ document, EnvironmentDocument.ofJson sampleDocument = .ok document := ⟨_, rfl⟩
  obtain ⟨members, hmembers, hm⟩ := EnvironmentDocument.exists_ofJson_iff.mp hd
  cases hmembers
  obtain ⟨env, he⟩ := hok.mpr ⟨_, rfl, hm, by rintro _ ⟨⟩; rfl⟩
  have hl := hloads _ env rfl he
  exact ⟨h, env, he, hl.resolve "host", hl.resolve "version", hl.depth⟩

end Environment

end RequestScript
