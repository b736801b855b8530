import RequestScript.Word

namespace RequestScript

/-- A word without parts. -/
inductive Leaf where
  | text (text : String)
  | name (name : String)
deriving DecidableEq

namespace Leaf

def toWord : Leaf → Word
  | text value => .literal value
  | name value => .reference value

/-- Leaves with texts that stand side by side made one, and none that is empty. -/
def merge : List Leaf → List Leaf
  | [] => []
  | text first :: rest =>
    match merge rest with
    | text second :: others => text (first ++ second) :: others
    | others => if first = "" then others else text first :: others
  | name value :: rest => name value :: merge rest

/-- Leaves among which no text is empty or stands in front of another text. -/
def IsMerged : List Leaf → Prop
  | [] => True
  | text first :: rest =>
    first ≠ "" ∧ (∀ second others, rest ≠ text second :: others) ∧ IsMerged rest
  | name _ :: rest => IsMerged rest

theorem isMerged_merge (leaves : List Leaf) : IsMerged (merge leaves) := by
  induction leaves with
  | nil => trivial
  | cons leaf rest ih =>
    cases leaf with
    | name value => exact ih
    | text first =>
      unfold merge
      split
      next second others h =>
        rw [h] at ih
        obtain ⟨hs, ho, hm⟩ := ih
        refine ⟨fun he => ?_, ho, hm⟩
        exact hs (String.append_eq_empty_iff.mp he).2
      next hn =>
        split
        next => exact ih
        next hf => exact ⟨hf, hn, ih⟩

/-- What reads texts one after the other does not tell merged leaves from the others. -/
theorem apply_merge {α : Type} {f : List Leaf → α}
    (hj : ∀ first second rest, f (text (first ++ second) :: rest) =
      f (text first :: text second :: rest))
    (he : ∀ rest, f (text "" :: rest) = f rest)
    (hc : ∀ leaf rest others, f rest = f others → f (leaf :: rest) = f (leaf :: others))
    (leaves : List Leaf) : f (merge leaves) = f leaves := by
  induction leaves with
  | nil => rfl
  | cons leaf rest ih =>
    cases leaf with
    | name value => exact hc (name value) _ _ ih
    | text first =>
      unfold merge
      split
      next second others h =>
        rw [h] at ih
        rw [hj]
        exact hc (text first) _ _ ih
      next =>
        split
        next hf =>
          rw [hf, he]
          exact ih
        next => exact hc (text first) _ _ ih

end Leaf

namespace Word

mutual

/-- The leaves of a word from left to right. -/
def leaves : Word → List Leaf
  | literal text => [.text text]
  | reference name => [.name name]
  | compound parts => leavesOfAll parts

def leavesOfAll : List Word → List Leaf
  | [] => []
  | part :: parts => leaves part ++ leavesOfAll parts

end

theorem expandAll_append (env : Environment String) (a b : List Word) :
    expandAll env (a ++ b) = (do
      let first ← expandAll env a
      let rest ← expandAll env b
      return first ++ rest) := by
  induction a with
  | nil =>
    simp only [List.nil_append, expandAll]
    cases expandAll env b with
    | error error => rfl
    | ok text => simp [bind, Except.bind, pure, Except.pure]
  | cons part parts ih =>
    simp only [List.cons_append, expandAll, ih]
    cases expand env part with
    | error error => rfl
    | ok first =>
      cases expandAll env parts with
      | error error => rfl
      | ok second =>
        cases expandAll env b with
        | error error => rfl
        | ok third => simp [bind, Except.bind, pure, Except.pure, String.append_assoc]

theorem namesOfAll_append (a b : List Word) :
    namesOfAll (a ++ b) = namesOfAll a ++ namesOfAll b := by
  induction a with
  | nil => rfl
  | cons part parts ih => simp only [List.cons_append, namesOfAll, ih, List.append_assoc]

mutual

/-- A word has the text of its leaves one after the other. -/
theorem expandAll_leaves (env : Environment String) (word : Word) :
    expandAll env (word.leaves.map Leaf.toWord) = word.expand env := by
  cases word with
  | literal text =>
    simp [leaves, Leaf.toWord, expandAll, expand, bind, Except.bind, pure, Except.pure]
  | reference name =>
    simp only [leaves, List.map_cons, List.map_nil, Leaf.toWord, expandAll]
    cases expand env (reference name) with
    | error error => rfl
    | ok text => simp [bind, Except.bind, pure, Except.pure]
  | compound parts => exact expandAll_leavesOfAll env parts

theorem expandAll_leavesOfAll (env : Environment String) (parts : List Word) :
    expandAll env ((leavesOfAll parts).map Leaf.toWord) = expandAll env parts := by
  cases parts with
  | nil => rfl
  | cons part parts =>
    rw [leavesOfAll, List.map_append, expandAll_append, expandAll_leaves env part,
      expandAll_leavesOfAll env parts, expandAll]

end

mutual

theorem namesOfAll_leaves (word : Word) :
    namesOfAll (word.leaves.map Leaf.toWord) = word.names := by
  cases word with
  | literal text => rfl
  | reference name => rfl
  | compound parts => exact namesOfAll_leavesOfAll parts

theorem namesOfAll_leavesOfAll (parts : List Word) :
    namesOfAll ((leavesOfAll parts).map Leaf.toWord) = namesOfAll parts := by
  cases parts with
  | nil => rfl
  | cons part parts =>
    rw [leavesOfAll, List.map_append, namesOfAll_append, namesOfAll_leaves part,
      namesOfAll_leavesOfAll parts, namesOfAll]

end

theorem expandAll_merge (env : Environment String) (leaves : List Leaf) :
    expandAll env ((Leaf.merge leaves).map Leaf.toWord) =
      expandAll env (leaves.map Leaf.toWord) := by
  refine Leaf.apply_merge (f := fun leaves => expandAll env (leaves.map Leaf.toWord))
    (fun first second rest => ?_) (fun rest => ?_) (fun leaf rest others h => ?_) leaves
  · simp only [List.map_cons, Leaf.toWord, expandAll, expand]
    cases expandAll env (rest.map Leaf.toWord) with
    | error error => rfl
    | ok text => simp [bind, Except.bind, pure, Except.pure, String.append_assoc]
  · simp only [List.map_cons, Leaf.toWord, expandAll, expand]
    cases expandAll env (rest.map Leaf.toWord) with
    | error error => rfl
    | ok text => simp [bind, Except.bind, pure, Except.pure]
  · simp only [List.map_cons, expandAll, h]

theorem namesOfAll_merge (leaves : List Leaf) :
    namesOfAll ((Leaf.merge leaves).map Leaf.toWord) =
      namesOfAll (leaves.map Leaf.toWord) := by
  refine Leaf.apply_merge (f := fun leaves => namesOfAll (leaves.map Leaf.toWord))
    (fun first second rest => rfl) (fun rest => rfl) (fun leaf rest others h => ?_) leaves
  simp only [List.map_cons, namesOfAll, h]

theorem mem_namesOfAll {leaves : List Leaf} {value : String} (h : .name value ∈ leaves) :
    value ∈ namesOfAll (leaves.map Leaf.toWord) := by
  induction leaves with
  | nil => cases h
  | cons leaf rest ih =>
    rw [List.map_cons, namesOfAll]
    rcases List.mem_cons.mp h with rfl | h
    · exact List.mem_append_left _ List.mem_cons_self
    · exact List.mem_append_right _ (ih h)

end Word

end RequestScript
