import Mathlib.Data.List.Find
import RequestScript.Environment.Document
import RequestScript.Proofs.FileTree.Ancestors
import RequestScript.Proofs.Workspace

namespace RequestScript

/-- Members that a list has already do not change what is found first in the start of it. -/
theorem find?_take_append {α : Type} {xs again : List α} (h : ∀ x ∈ again, x ∈ xs) (n : Nat)
    (p : α → Bool) : ((xs ++ again).take n).find? p = (xs.take n).find? p := by
  rw [List.take_append, List.find?_append]
  by_cases hn : n ≤ xs.length
  · rw [Nat.sub_eq_zero_of_le hn, List.take_zero, List.find?_nil, Option.or_none]
  rw [List.take_of_length_le (Nat.le_of_not_le hn)]
  cases hx : xs.find? p with
  | some x => rfl
  | none =>
    rw [Option.none_or, List.find?_eq_none]
    exact fun x hm => List.find?_eq_none.mp hx x (h x (List.mem_of_mem_take hm))

/-- Of the lists in front of the later members of a list, those that go on from the same start. -/
theorem filter_take_upwards {α : Type} [DecidableEq α] (start xs : List α) (n : Nat) :
    ((upwards (start ++ xs)).take n).filter (start.isPrefixOf ·) =
      ((upwards xs).take n).map (start ++ ·) := by
  obtain ⟨shorter, hs, hl⟩ := upwards_append start xs
  have hsame : (((upwards xs).map (start ++ ·)).take n).filter (start.isPrefixOf ·) =
      ((upwards xs).map (start ++ ·)).take n := by
    refine List.filter_eq_self.mpr fun ys hm => ?_
    obtain ⟨rest, -, rfl⟩ := List.mem_map.mp (List.mem_of_mem_take hm)
    simp
  have hnone (k : Nat) : (shorter.take k).filter (start.isPrefixOf ·) = [] := by
    refine List.filter_eq_nil_iff.mpr fun ys hm hp => ?_
    have hlt := hl ys (List.mem_of_mem_take hm)
    exact absurd (List.isPrefixOf_iff_prefix.mp hp).length_le (Nat.not_le.mpr hlt)
  rw [hs, List.take_append, List.filter_append, hsame, hnone, List.append_nil, List.map_take]

namespace FileTree

/-- What is found first on the way up from the place of a path is found first among the places of
the paths above it. -/
theorem find?_directories (path : FilePath) (n : Nat) (p : List String → Bool) :
    (((path :: path.ancestors).take n).find? fun directory => p (entryNames directory)).map
      entryNames = ((upwards (entryNames path)).take n).find? p := by
  obtain ⟨again, hagain, hmap⟩ := map_entryNames_ancestors path
  rw [← find?_take_append hagain, ← hmap, ← List.map_take, List.find?_map]
  rfl

/-- The directories in which a file is looked for: a directory and the three above it, as far as
there are so many, the nearest first. -/
def nearest (directory : Location) : List Location :=
  (upwards directory).take Environment.searchedDirectories

end FileTree

namespace Environment

open FileTree

theorem run_findFile (workspace : Workspace) (name : FilePath) (directories : List FilePath) :
    workspace.run (findFile name directories) = (workspace,
      (directories.find? fun directory => workspace.tree.isFile (directory.join name)).map
        fun directory => directory.join name) := by
  induction directories with
  | nil => rfl
  | cons directory rest ih =>
    show (if workspace.tree.isFile (directory.join name) = true then
      (Program.done (some (directory.join name)) : HostProgram _) else
        findFile name rest).run Workspace.respond workspace = _
    rw [List.find?_cons]
    cases workspace.tree.isFile (directory.join name) with
    | true => rfl
    | false => exact ih

variable {tree : FileTree} {start : FilePath} {location : Location} {name : String}

/-- What stands for a directory in which a file has been found. -/
abbrev LeadsToFile (tree : FileTree) (name : String) (directory : Location) (path : FilePath) :
    Prop :=
  ∃ content, tree.fileAt path = .ok (directory ++ [name], content)

/-- The search goes up the directories of the tree as long as the path goes on, which is up to the
place where it starts. -/
theorem run_search (clock : Instant)
    (hl : tree.locate start = .ok (.taken location .directory)) (hup : ".." ∉ namesOf start)
    (hn : IsFileName name) (hr : refusal? (start.join (.ofString name)) = none) :
    ∃ found, (⟨tree, clock⟩ : Workspace).run (search start name) = (⟨tree, clock⟩, found) ∧
      Option.Rel (LeadsToFile tree name)
        (((nearest location).filter (tree.startOf start).isPrefixOf).find? (tree.hasFile name))
        found := by
  let directories := (start :: start.ancestors).take searchedDirectories
  have hleads (directory : FilePath) (hd : directory ∈ directories) :=
    leads_ancestor hl hup hn hr (List.mem_of_mem_take hd)
  have hfind : directories.find? (fun directory => tree.isFile (directory.join (.ofString name))) =
      directories.find? fun directory =>
        tree.hasFile name (tree.startOf start ++ entryNames directory) :=
    List.find?_congr fun directory hd => (hleads directory hd).isFile_eq
  have hnearest : ((nearest location).filter (tree.startOf start).isPrefixOf).find?
      (tree.hasFile name) = (directories.find? fun directory =>
        tree.hasFile name (tree.startOf start ++ entryNames directory)).map fun directory =>
          tree.startOf start ++ entryNames directory := by
    obtain ⟨hlocation, -⟩ := passes_of_locate hl hup
    rw [nearest, hlocation, filter_take_upwards, List.find?_map, ← find?_directories,
      Option.map_map]
    rfl
  refine ⟨_, run_findFile _ _ _, ?_⟩
  show Option.Rel _ _ ((directories.find? fun directory =>
    tree.isFile (directory.join (.ofString name))).map _)
  rw [hfind, hnearest]
  cases hd : directories.find? fun directory =>
      tree.hasFile name (tree.startOf start ++ entryNames directory) with
  | none => exact Option.Rel.none
  | some directory =>
    have hfile := List.find?_some hd
    obtain ⟨content, hf⟩ := hasFile_iff.mp hfile
    exact Option.Rel.some ⟨content, (hleads directory (List.mem_of_find?_eq_some hd)).fileAt hf⟩

/-- An environment file is found in the nearest of the directory where the search starts and the
three above it, as far as they are not above the place where the path of the search starts: from an
absolute path all of them are searched, from a relative one none above the working directory. -/
theorem search_finds_nearest (clock : Instant)
    (hl : tree.locate start = .ok (.taken location .directory)) (hup : ".." ∉ namesOf start)
    (hn : IsFileName name) (hr : refusal? (start.join (.ofString name)) = none) :
    ∃ found, (⟨tree, clock⟩ : Workspace).run (search start name) = (⟨tree, clock⟩, found) ∧
      Option.Rel (LeadsToFile tree name)
        (((nearest location).filter (tree.startOf start).isPrefixOf).find? (tree.hasFile name))
        found ∧
      (start.isAbsolute = true →
        Option.Rel (LeadsToFile tree name) ((nearest location).find? (tree.hasFile name)) found) := by
  obtain ⟨found, hrun, hfound⟩ := run_search clock hl hup hn hr
  refine ⟨found, hrun, hfound, fun ha => ?_⟩
  have hall : (nearest location).filter (tree.startOf start).isPrefixOf = nearest location := by
    rw [startOf, ha]
    exact List.filter_eq_self.mpr fun _ _ => rfl
  rwa [hall] at hfound

/-- A directory `w` with a file `e` and with directories `p/q/r` below it. -/
def sampleTree (current : Location) : FileTree :=
  ⟨[(["w"], .directory), (["w", "e"], .file []), (["w", "p"], .directory),
    (["w", "p", "q"], .directory), (["w", "p", "q", "r"], .directory)], current⟩

/-- From `p/q` the file is found in the directory where the path starts. -/
theorem search_finds_nearest_two_above :
    (sampleTree ["w"]).locate (.ofString "p/q") = .ok (.taken ["w", "p", "q"] .directory) ∧
      ".." ∉ namesOf (.ofString "p/q") ∧ IsFileName "e" ∧
      refusal? ((FilePath.ofString "p/q").join (.ofString "e")) = none ∧
      ∃ (workspace : Workspace) (path : FilePath) (content : Bytes),
        workspace.tree = sampleTree ["w"] ∧
        workspace.run (search (.ofString "p/q") "e") = (workspace, some path) ∧
        workspace.tree.fileAt path = .ok (["w", "e"], content) := by
  have hnames : namesOf (.ofString "p/q") = ["p", "q"] := by
    rw [namesOf_eq]
    decide +kernel
  have hl : (sampleTree ["w"]).locate (.ofString "p/q") =
      .ok (.taken ["w", "p", "q"] .directory) := by
    unfold locate
    rw [hnames]
    rfl
  have hup : ".." ∉ namesOf (.ofString "p/q") := by
    rw [hnames]
    decide
  have hn : IsFileName "e" := ⟨⟨by decide, by decide, by decide⟩, by decide, by decide⟩
  obtain ⟨found, hrun, hfound, -⟩ :=
    search_finds_nearest ⟨0, 0, by decide, by decide, by decide⟩ hl hup hn (by decide)
  have hd : ((nearest ["w", "p", "q"]).filter
      ((sampleTree ["w"]).startOf (.ofString "p/q")).isPrefixOf).find?
      ((sampleTree ["w"]).hasFile "e") = some ["w"] := by decide
  rw [hd] at hfound
  cases hfound with
  | some hf =>
    obtain ⟨content, hf⟩ := hf
    exact ⟨hl, hup, hn, by decide, _, _, content, rfl, hrun, hf⟩

/-- A search that finds nothing, though one of the directories in which it is to look has the
file. -/
structure Misses (tree : FileTree) (start : FilePath) (name : String) : Prop where
  hasFile : ∃ location directory, tree.locate start = .ok (.taken location .directory) ∧
    (nearest location).find? (tree.hasFile name) = some directory
  findsNothing : ∀ clock, (⟨tree, clock⟩ : Workspace).run (search start name) =
    (⟨tree, clock⟩, none)

/-- The search misses a file in the directory above the one where it starts, if that one is the
working directory, or if the path goes down and up again. -/
theorem search_misses_directory_above :
    Misses (sampleTree ["w", "p"]) (.ofString ".") "e" ∧
      Misses (sampleTree ["w"]) (.ofString "p/q/r/../..") "e" := by
  have hnames : namesOf (.ofString ".") = ["."] ∧
      namesOf (.ofString "p/q/r/../..") = ["p", "q", "r", "..", ".."] := by
    rw [namesOf_eq, namesOf_eq]
    decide +kernel
  refine ⟨⟨⟨["w", "p"], ["w"], ?_, by decide⟩, fun clock => ?_⟩,
    ⟨["w", "p"], ["w"], ?_, by decide⟩, fun clock => ?_⟩
  · unfold locate
    rw [hnames.1]
    rfl
  · refine (run_findFile _ _ _).trans (congrArg _ ?_)
    simp only [isFile, node?, locate, namesOf_eq]
    decide +kernel
  · unfold locate
    rw [hnames.2]
    rfl
  · refine (run_findFile _ _ _).trans (congrArg _ ?_)
    simp only [isFile, node?, locate, namesOf_eq]
    decide +kernel

end Environment

end RequestScript
