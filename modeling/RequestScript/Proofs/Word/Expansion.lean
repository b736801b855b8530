import Mathlib.Data.List.Find
import RequestScript.Proofs.Environment
import RequestScript.Proofs.Word.Leaves

namespace RequestScript

namespace Leaf

/-- The text that a leaf adds to an expansion. -/
def value (env : Environment String) : Leaf → Except UndefinedName String
  | text value => .ok value
  | name value => env.resolve value

/-- The text of a leaf as far as it has one. -/
def fill (env : Environment String) : Leaf → String
  | text value => value
  | name value => (env.find? value).getD ""

theorem value_name_eq_fill {env : Environment String} {value : String}
    (h : env.contains value = true) : (name value).value env = .ok ((name value).fill env) := by
  rw [Environment.contains_eq_isSome_find?] at h
  obtain ⟨found, hf⟩ := Option.isSome_iff_exists.mp h
  simp only [Leaf.value, fill, Environment.resolve_of_find? hf, hf, Option.getD_some]

end Leaf

theorem coerceBool_error {text : String} {error : ExpandError}
    (h : coerceBool text = .error error) : error = .notBool text := by
  unfold coerceBool at h
  split at h
  next => cases h
  next => exact (Except.error.inj h).symm

theorem coerceInt_error {text : String} {error : ExpandError}
    (h : coerceInt text = .error error) : error = .notInt text := by
  unfold coerceInt at h
  split at h
  next => cases h
  next => exact (Except.error.inj h).symm

theorem coerceUrl_error {text : String} {error : ExpandError}
    (h : coerceUrl text = .error error) : ∃ reason, error = .notUrl text reason := by
  unfold coerceUrl at h
  split at h
  next => cases h
  next reason _ => exact ⟨reason, (Except.error.inj h).symm⟩

namespace Word

theorem displayAll_append (a b : List Word) :
    displayAll (a ++ b) = displayAll a ++ displayAll b := by
  induction a with
  | nil => rfl
  | cons part parts ih => simp only [List.cons_append, displayAll, ih, List.append_assoc]

mutual

theorem displayAll_leaves (word : Word) :
    displayAll (word.leaves.map Leaf.toWord) = word.display := by
  cases word with
  | literal text => simp [leaves, Leaf.toWord, displayAll, display]
  | reference name => simp [leaves, Leaf.toWord, displayAll, display]
  | compound parts => exact displayAll_leavesOfAll parts

theorem displayAll_leavesOfAll (parts : List Word) :
    displayAll ((leavesOfAll parts).map Leaf.toWord) = displayAll parts := by
  cases parts with
  | nil => rfl
  | cons part parts =>
    rw [leavesOfAll, List.map_append, displayAll_append, displayAll_leaves part,
      displayAll_leavesOfAll parts, displayAll]

end

/-- Leaves expand to their texts one after the other, unless a name among them is not bound; then
the first such name is the error. -/
theorem expandAll_map_toWord (env : Environment String) (leaves : List Leaf) :
    expandAll env (leaves.map Leaf.toWord) =
      match (namesOfAll (leaves.map Leaf.toWord)).find? fun name => !env.contains name with
      | some name => .error (.undefined ⟨name⟩)
      | none => .ok (String.join (leaves.map (Leaf.fill env))) := by
  induction leaves with
  | nil => rfl
  | cons leaf rest ih =>
    cases leaf with
    | text value =>
      simp only [List.map_cons, Leaf.toWord, expandAll, expand, ih, namesOfAll, names,
        List.nil_append, Leaf.fill, String.join_cons]
      cases (namesOfAll (rest.map Leaf.toWord)).find? fun name => !env.contains name with
      | none => rfl
      | some name => rfl
    | name value =>
      simp only [List.map_cons, Leaf.toWord, expandAll, expand, ih, namesOfAll, names,
        List.singleton_append, List.find?_cons, String.join_cons]
      cases hc : env.contains value with
      | false =>
        rw [Environment.resolve_of_not_contains hc]
        rfl
      | true =>
        have hv : env.resolve value = .ok ((Leaf.name value).fill env) :=
          Leaf.value_name_eq_fill hc
        rw [hv]
        cases (namesOfAll (rest.map Leaf.toWord)).find? fun name => !env.contains name with
        | none => rfl
        | some name => rfl

/-- What a word expands to is told by its leaves and by the names that are bound. -/
theorem expand_eq (word : Word) (env : Environment String) :
    word.expand env =
      match word.names.find? fun name => !env.contains name with
      | some name => .error (.undefined ⟨name⟩)
      | none => .ok (String.join (word.leaves.map (Leaf.fill env))) := by
  rw [← expandAll_leaves, expandAll_map_toWord, namesOfAll_leaves]

theorem expand_of_bound {word : Word} {env : Environment String}
    (h : ∀ name ∈ word.names, env.contains name = true) :
    word.expand env = .ok (String.join (word.leaves.map (Leaf.fill env))) := by
  have hn : (word.names.find? fun name => !env.contains name) = none :=
    List.find?_eq_none.mpr fun name hm => by simp [h name hm]
  rw [expand_eq, hn]

theorem bound_of_expand {word : Word} {env : Environment String} {text : String}
    (h : word.expand env = .ok text) : ∀ name ∈ word.names, env.contains name = true := by
  intro name hm
  rw [expand_eq] at h
  cases hn : word.names.find? fun name => !env.contains name with
  | none => simpa using List.find?_eq_none.mp hn name hm
  | some first =>
    rw [hn] at h
    cases h

theorem mem_names_of_mem_leaves {word : Word} {value : String} (h : .name value ∈ word.leaves) :
    value ∈ word.names := by
  rw [← namesOfAll_leaves]
  exact mem_namesOfAll h

theorem values_of_bound {word : Word} {env : Environment String}
    (h : ∀ name ∈ word.names, env.contains name = true) :
    word.leaves.map (Leaf.value env) = (word.leaves.map (Leaf.fill env)).map .ok := by
  rw [List.map_map]
  refine List.map_congr_left fun leaf hl => ?_
  cases leaf with
  | text value => rfl
  | name value => exact Leaf.value_name_eq_fill (h value (mem_names_of_mem_leaves hl))

theorem expand_error {word : Word} {env : Environment String} {error : ExpandError}
    (h : word.expand env = .error error) :
    ∃ before name after, word.names = before ++ name :: after ∧
      (∀ earlier ∈ before, env.contains earlier = true) ∧ env.contains name = false ∧
      error = .undefined ⟨name⟩ := by
  rw [expand_eq] at h
  cases hn : word.names.find? fun name => !env.contains name with
  | none =>
    rw [hn] at h
    cases h
  | some name =>
    rw [hn] at h
    obtain ⟨hc, before, after, hs, hb⟩ := List.find?_eq_some_iff_append.mp hn
    exact ⟨before, name, after, hs, fun earlier he => by simpa using hb earlier he,
      by simpa using hc, (Except.error.inj h).symm⟩

/-- Environments that give the names of a word the same values give it the same text. -/
theorem expand_congr {word : Word} {env other : Environment String}
    (h : ∀ name ∈ word.names, other.resolve name = env.resolve name) :
    word.expand other = word.expand env := by
  have hf : ∀ name ∈ word.names, other.find? name = env.find? name := fun name hm =>
    Environment.find?_eq_of_resolve_eq (h name hm)
  have hn : (word.names.find? fun name => !other.contains name) =
      word.names.find? fun name => !env.contains name := by
    refine List.find?_congr fun name hm => ?_
    rw [Environment.contains_eq_isSome_find?, Environment.contains_eq_isSome_find?, hf name hm]
  have hl : word.leaves.map (Leaf.fill other) = word.leaves.map (Leaf.fill env) := by
    refine List.map_congr_left fun leaf hm => ?_
    cases leaf with
    | text value => rfl
    | name value =>
      have hv : value ∈ word.names := mem_names_of_mem_leaves hm
      rw [Leaf.fill, Leaf.fill, hf value hv]
  rw [expand_eq, expand_eq, hn, hl]

/-- A word expands if and only if all its names are bound, and then to the texts of its leaves one
after the other; else the first name that is not bound is the error. Words of the same leaves expand
alike, and so do environments that agree on the names. A truth value, a number or an address is read
from the expanded text. -/
theorem expand_first_failure (word : Word) (env : Environment String) :
    ((∃ text, word.expand env = .ok text) ↔ ∀ name ∈ word.names, env.contains name = true) ∧
    (∀ text, word.expand env = .ok text → ∃ texts,
      word.leaves.map (Leaf.value env) = texts.map .ok ∧ text = String.join texts) ∧
    (∀ error, word.expand env = .error error → ∃ before name after,
      word.names = before ++ name :: after ∧
      (∀ earlier ∈ before, env.contains earlier = true) ∧ env.contains name = false ∧
      error = .undefined ⟨name⟩) ∧
    (∀ other : Word, other.leaves = word.leaves → other.expand env = word.expand env ∧
      other.names = word.names ∧ other.toText = word.toText) ∧
    (∀ other : Environment String,
      (∀ name ∈ word.names, other.resolve name = env.resolve name) →
        word.expand other = word.expand env ∧ word.expandBool other = word.expandBool env ∧
        word.expandInt other = word.expandInt env ∧ word.expandUrl other = word.expandUrl env) ∧
    (∀ error, word.expand env = .error error → word.expandBool env = .error error ∧
      word.expandInt env = .error error ∧ word.expandUrl env = .error error) ∧
    ∀ text, word.expand env = .ok text →
      word.expandBool env = coerceBool text ∧
      word.expandInt env = coerceInt text ∧
      word.expandUrl env = coerceUrl text ∧
      (∀ error, coerceBool text = .error error → error = .notBool text) ∧
      (∀ error, coerceInt text = .error error → error = .notInt text) ∧
      ∀ error, coerceUrl text = .error error → ∃ reason, error = .notUrl text reason := by
  refine ⟨⟨fun ⟨text, h⟩ => bound_of_expand h, fun h => ⟨_, expand_of_bound h⟩⟩,
    fun text h => ?_, fun error h => expand_error h, fun other h => ?_, fun other h => ?_,
    fun error h => ?_, fun text h => ?_⟩
  · have hb := bound_of_expand h
    rw [expand_of_bound hb] at h
    exact ⟨_, values_of_bound hb, (Except.ok.inj h).symm⟩
  · refine ⟨?_, ?_, ?_⟩
    · rw [← expandAll_leaves, h, expandAll_leaves]
    · rw [← namesOfAll_leaves, h, namesOfAll_leaves]
    · rw [toText, toText, ← displayAll_leaves, h, displayAll_leaves]
  · have he := expand_congr h
    simp only [expandBool, expandInt, expandUrl, he, and_self]
  · simp only [expandBool, expandInt, expandUrl, h]
    exact ⟨rfl, rfl, rfl⟩
  · simp only [expandBool, expandInt, expandUrl, h]
    exact ⟨rfl, rfl, rfl, fun error => coerceBool_error, fun error => coerceInt_error,
      fun error => coerceUrl_error⟩

end Word

end RequestScript
