import RequestScript.Proofs.Workspace.Faults

namespace RequestScript

namespace FileTree

/-- A tree with a draft of some content. -/
def Drafted (tree : FileTree) (draft : FilePath) (content : Bytes) (later : FileTree) : Prop :=
  ∃ location, tree.locateFile draft .isADirectory = .ok location ∧
    later = tree.put location (.file content)

/-- A tree in which a draft has been moved to the place of another path. -/
def Moved (tree : FileTree) (path draft : FilePath) (bytes : Bytes) (later : FileTree) : Prop :=
  ∃ location destination, tree.locateFile draft .isADirectory = .ok location ∧
    (tree.put location (.file bytes)).locateFile path .notADirectory = .ok destination ∧
    later = Workspace.moved tree location destination bytes

variable {tree later after : FileTree} {path draft : FilePath} {content bytes : Bytes}

theorem drafted_of_create (h : tree.create draft = .ok later) : tree.Drafted draft [] later := by
  unfold create at h
  cases hl : tree.locateFile draft .isADirectory with
  | error error => rw [hl] at h; cases h
  | ok location =>
    rw [hl] at h
    cases h
    exact ⟨location, hl, rfl⟩

theorem not_directory_of_locateFile {location : Location} {slash : FileError}
    (h : tree.locateFile path slash = .ok location) : tree.find? location ≠ some .directory := by
  rcases (locateFile_ok h).2.2 with ⟨old, hf⟩ | ⟨_, _, _, _, hf⟩ <;> rw [hf] <;> simp

theorem SameDirectories.drafted {location : Location}
    (h : tree.locateFile draft .isADirectory = .ok location) (content : Bytes) :
    tree.SameDirectories (tree.put location (.file content)) :=
  .put (locateFile_ok h).2.1 (not_directory_of_locateFile h) content

theorem SameDirectories.moved {location destination : Location}
    (hl : tree.locateFile draft .isADirectory = .ok location)
    (hd : (tree.put location (.file bytes)).locateFile path .notADirectory = .ok destination) :
    (tree.put location (.file bytes)).SameDirectories
      (Workspace.moved tree location destination bytes) := by
  have hr := (locateFile_ok hl).2.1
  have hf : (tree.put location (.file bytes)).find? location ≠ some .directory := by
    rw [find?_put hr, if_pos rfl]
    simp
  have he := SameDirectories.erase hr hf
  have hr' := (locateFile_ok hd).2.1
  have hf' := mt (he.directory destination).mpr (not_directory_of_locateFile hd)
  rw [Workspace.moved, put_put]
  exact he.trans (.put hr' hf' bytes)

theorem Drafted.fileAt (h : tree.Drafted draft content later) :
    ∃ location, tree.locateFile draft .isADirectory = .ok location ∧
      later = tree.put location (.file content) ∧
      later.fileAt draft = .ok (location, content) := by
  obtain ⟨location, hl, rfl⟩ := h
  obtain ⟨hp, hr, -⟩ := locateFile_ok hl
  refine ⟨location, hl, rfl, ((SameDirectories.drafted hl content).points hp).fileAt ?_⟩
  rw [find?_put hr, if_pos rfl]

theorem Drafted.write (h : tree.Drafted draft [] later) (hw : later.write draft bytes = .ok after) :
    tree.Drafted draft bytes after := by
  obtain ⟨location, hl, rfl, hf⟩ := h.fileAt
  unfold FileTree.write at hw
  rw [hf] at hw
  cases hw
  exact ⟨location, hl, put_put tree location _ _⟩

theorem Drafted.rename (h : tree.Drafted draft bytes later)
    (hm : later.rename draft path = .ok after) : tree.Moved path draft bytes after := by
  obtain ⟨location, hl, rfl, hf⟩ := h.fileAt
  unfold FileTree.rename at hm
  rw [hf] at hm
  simp only [bind, Except.bind] at hm
  cases hd : (tree.put location (.file bytes)).locateFile path .notADirectory with
  | error error =>
    rw [hd] at hm
    cases hm
  | ok destination =>
    rw [hd] at hm
    cases hm
    exact ⟨location, destination, hl, hd, by rw [Workspace.moved, put_put]⟩

theorem vacant_of_isFile_eq_false {location : Location} {slash : FileError}
    (hn : tree.isFile draft = false) (hl : tree.locateFile draft slash = .ok location) :
    tree.find? location = none := by
  obtain ⟨hp, -, ⟨old, ho⟩ | ⟨_, _, _, _, hv⟩⟩ := locateFile_ok hl
  · have hs := content?_eq_some_iff.mpr ⟨location, hp, ho⟩
    rw [isFile_eq_false_iff.mp hn] at hs
    cases hs
  · exact hv

theorem Drafted.remove (h : tree.Drafted draft content later) (hn : tree.isFile draft = false) :
    later.remove draft = .ok tree := by
  obtain ⟨location, hl, rfl, hf⟩ := h.fileAt
  have hr := (locateFile_ok hl).2.1
  have hv := vacant_of_isFile_eq_false hn hl
  unfold FileTree.remove
  rw [hf]
  exact congrArg Except.ok (erase_put hr hv)

theorem exists_moved {location destination : Location}
    (hl : tree.locateFile draft .isADirectory = .ok location)
    (hd : tree.locateFile path .notADirectory = .ok destination) (bytes : Bytes) :
    ∃ later, tree.Moved path draft bytes later := by
  have hs := SameDirectories.drafted hl bytes
  have hr := (locateFile_ok hl).2.1
  obtain ⟨hp, hr', hc⟩ := locateFile_ok hd
  -- the draft may take the place itself; elsewhere it changes nothing that the path leads to
  suffices ht : (tree.put location (.file bytes)).locateFile path .notADirectory =
      .ok destination from ⟨_, location, destination, hl, ht, rfl⟩
  by_cases he : destination = location
  · exact (hs.points hp).locateFile (by rw [find?_put hr', if_pos he]) _
  rcases hc with ⟨old, hf⟩ | ⟨directory, name, hn, rfl, hv⟩
  · exact (hs.points hp).locateFile (by rw [find?_put hr', if_neg he, hf]) _
  · exact (hs.leads hn).locateFile (by rw [find?_put hr', if_neg he, hv]; simp) _

theorem moved_of_leads {base : FileTree} {directory above : Location} {name last : String}
    (hg : base.Grows tree) (hd : base.Leads draft directory name)
    (hv : base.find? (directory ++ [name]) = none) (hp : base.Leads path above last)
    (hf : base.find? (above ++ [last]) = none) (bytes : Bytes) :
    tree.Moved path draft bytes
      (Workspace.moved tree (directory ++ [name]) (above ++ [last]) bytes) := by
  have hput := hg.put hv bytes
  have hl := (hd.keeps hg.toKeeps).locateFile (hg.onlyFiles _ hv) .isADirectory
  have ht := (hp.keeps hput.toKeeps).locateFile (hput.onlyFiles _ hf) .notADirectory
  exact ⟨_, _, hl, ht, rfl⟩

theorem remove_of_isFile_eq_false (hn : tree.isFile draft = false) :
    ∃ error, tree.remove draft = .error error := by
  unfold remove
  cases hf : tree.fileAt draft with
  | error error => exact ⟨error, rfl⟩
  | ok found =>
    obtain ⟨location, content⟩ := found
    have hs := content?_eq_some_iff.mpr ⟨location, fileAt_ok_iff.mp hf⟩
    rw [isFile_eq_false_iff.mp hn] at hs
    cases hs

theorem Moved.content? (h : tree.Moved path draft bytes later) :
    later.content? path = some bytes := by
  obtain ⟨location, destination, hl, hd, rfl⟩ := h
  obtain ⟨hp, hr, hc⟩ := locateFile_ok hd
  have hs := (SameDirectories.moved hl hd)
  rw [content?_eq_some_iff]
  refine ⟨destination, hs.points hp, ?_⟩
  rw [Workspace.find?_moved hr, if_pos rfl]

section Extension

variable {extension last : List Char} (hx : '/' ∉ extension ++ '.' :: last) (hl : '.' ∉ last)
  (hn : tree.isFile (path.withExtension (extension ++ '.' :: last)) = false)

include hx hl hn

/-- A file is not touched by a draft whose path is its own with another extension. -/
theorem Drafted.content?
    (h : tree.Drafted (path.withExtension (extension ++ '.' :: last)) content later) :
    later.content? path = tree.content? path := by
  obtain ⟨location, hd, rfl⟩ := h
  have hv := vacant_of_isFile_eq_false hn hd
  refine (SameDirectories.drafted hd content).content?_eq fun other hp => ?_
  have hne := points_ne_withExtension hx hl hd hv hp
  by_cases hr : other = []
  · rw [hr]
    rfl
  · rw [find?_put hr, if_neg hne]

theorem Moved.isFile_draft
    (h : tree.Moved path (path.withExtension (extension ++ '.' :: last)) bytes later) :
    later.isFile (path.withExtension (extension ++ '.' :: last)) = false := by
  obtain ⟨location, destination, hd, ht, rfl⟩ := h
  have hv := vacant_of_isFile_eq_false hn hd
  obtain ⟨hp, hr, -⟩ := locateFile_ok hd
  have hs := SameDirectories.drafted hd bytes
  have hm := SameDirectories.moved hd ht
  -- else the file that has been moved would still be found under the name of its draft
  have hne : destination ≠ location :=
    points_ne_withExtension hx hl hd hv (hs.symm.points (locateFile_ok ht).1)
  have hp' := (hs.trans hm).points hp
  rw [isFile_eq_false_iff, Option.eq_none_iff_forall_ne_some]
  intro content hc
  obtain ⟨other, ho, hf⟩ := content?_eq_some_iff.mp hc
  rw [ho.unique hp', Workspace.find?_moved hr, if_neg hne.symm, if_pos rfl] at hf
  cases hf

end Extension

/-- A tree before a draft of a file replaces it: untouched, or with the draft. -/
def Unfinished (tree : FileTree) (draft : FilePath) (later : FileTree) : Prop :=
  later = tree ∨ ∃ content, tree.Drafted draft content later

/-- A tree while a draft replaces a file. -/
def Underway (tree : FileTree) (path draft : FilePath) (bytes : Bytes) (later : FileTree) : Prop :=
  tree.Unfinished draft later ∨ tree.Moved path draft bytes later

end FileTree

namespace FaultyWorkspace

/-- What holds of the tree after each request of a program, and what at its end. -/
structure Ensures (host : FaultyWorkspace) (program : HostProgram (Except FileError Unit))
    (during done failed : FileTree → Prop) : Prop where
  steps : ∀ step ∈ host.trace program, during step.2.tree
  ends : Ends (host.run program) done failed

variable {host : FaultyWorkspace} {during done failed : FileTree → Prop}

theorem Ensures.ofEnds {request : HostRequest} {program : HostProgram (Except FileError Unit)}
    (ht : host.trace program = [(request, (host.run program).1)])
    (he : Ends (host.run program) done failed) (hd : ∀ tree, done tree → during tree)
    (hf : ∀ tree, failed tree → during tree) : host.Ensures program during done failed := by
  refine ⟨?_, he⟩
  rw [ht]
  intro step hs
  cases List.mem_singleton.mp hs
  cases hr : host.run program with
  | mk later answer =>
    rw [hr] at he
    cases answer with
    | ok value => exact hd _ he
    | error error => exact hf _ he

theorem Ensures.ofDone (h : done host.tree) :
    host.Ensures (.done (.ok ())) during done failed :=
  ⟨fun _ hs => (by cases hs), h⟩

theorem Ensures.ofFailed (error : FileError) (h : failed host.tree) :
    host.Ensures (.done (.error error)) during done failed :=
  ⟨fun _ hs => (by cases hs), h⟩

/-- What comes after a program runs in a tree that the program has made, or failed to make. -/
theorem Ensures.bind {made broken : FileTree → Prop} {first : HostProgram (Except FileError Unit)}
    {next : Except FileError Unit → HostProgram (Except FileError Unit)}
    (h : host.Ensures first during made broken)
    (hm : ∀ later : FaultyWorkspace, made later.tree →
      later.Ensures (next (.ok ())) during done failed)
    (hb : ∀ (later : FaultyWorkspace) (error : FileError), broken later.tree →
      later.Ensures (next (.error error)) during done failed) :
    host.Ensures (first >>= next) during done failed := by
  have he := h.ends
  have hn : (host.run first).1.Ensures (next (host.run first).2) during done failed := by
    cases hr : host.run first with
    | mk later answer =>
      rw [hr] at he
      cases answer with
      | ok value => exact hm later he
      | error error => exact hb later error he
  refine ⟨?_, ?_⟩
  · rw [trace_bind]
    intro step hs
    rcases List.mem_append.mp hs with hs | hs
    · exact h.steps step hs
    · exact hn.steps step hs
  · rw [run_bind]
    exact hn.ends

theorem Ensures.andThen {made : FileTree → Prop} {first second : HostProgram (Except FileError Unit)}
    (h : host.Ensures first during made failed)
    (hm : ∀ later : FaultyWorkspace, made later.tree → later.Ensures second during done failed) :
    host.Ensures (HostProgram.andThen first second) during done failed :=
  h.bind hm fun _ error hf => .ofFailed error hf

variable (host) (path draft : FilePath) (bytes : Bytes)

theorem ensures_moved :
    host.Ensures (HostProgram.andThen (HostProgram.create draft) (HostProgram.andThen
        (HostProgram.write draft bytes) (HostProgram.andThen (HostProgram.flush draft)
          (HostProgram.rename draft path))))
      (host.tree.Underway path draft bytes) (host.tree.Moved path draft bytes)
      (host.tree.Unfinished draft) := by
  have drafted {content : Bytes} {tree : FileTree} (h : host.tree.Drafted draft content tree) :
      host.tree.Unfinished draft tree := Or.inr ⟨content, h⟩
  have created : host.Ensures (HostProgram.create draft) (host.tree.Underway path draft bytes)
      (host.tree.Drafted draft []) (host.tree.Unfinished draft) := by
    refine .ofEnds rfl ((host.ends_create draft).mono (fun _ h => FileTree.drafted_of_create h) ?_)
      (fun _ h => Or.inl (drafted h)) fun _ h => Or.inl h
    rintro tree (rfl | h)
    · exact Or.inl rfl
    · exact drafted (FileTree.drafted_of_create h)
  refine created.andThen fun afterCreate hc => ?_
  have written : afterCreate.Ensures (HostProgram.write draft bytes)
      (host.tree.Underway path draft bytes) (host.tree.Drafted draft bytes)
      (host.tree.Unfinished draft) := by
    refine .ofEnds rfl ((afterCreate.ends_write draft bytes).mono (fun _ h => hc.write h) ?_)
      (fun _ h => Or.inl (drafted h)) fun _ h => Or.inl h
    rintro tree (rfl | ⟨part, h⟩)
    · exact drafted hc
    · exact drafted (hc.write h)
  refine written.andThen fun afterWrite hw => ?_
  have flushed : afterWrite.Ensures (HostProgram.flush draft)
      (host.tree.Underway path draft bytes) (host.tree.Drafted draft bytes)
      (host.tree.Unfinished draft) :=
    .ofEnds rfl ((afterWrite.ends_flush draft).mono (fun _ h => h ▸ hw) fun _ h => h ▸ drafted hw)
      (fun _ h => Or.inl (drafted h)) fun _ h => Or.inl h
  refine flushed.andThen fun afterFlush hf => ?_
  exact .ofEnds rfl ((afterFlush.ends_rename draft path).mono (fun _ h => hf.rename h)
    fun _ h => h ▸ drafted hf) (fun _ h => Or.inr h) fun _ h => Or.inl h

/-- If there was no file at the place of a draft, the draft goes without a trace. -/
theorem ends_remove_unfinished {tree : FileTree} (hu : tree.Unfinished draft host.tree)
    (hn : tree.isFile draft = false) :
    Ends (host.run (HostProgram.remove draft)) (fun later => later = tree)
      (fun later => later = tree) := by
  have hr := host.ends_remove draft
  rcases hu with ht | ⟨content, hd⟩
  · obtain ⟨reason, he⟩ := FileTree.remove_of_isFile_eq_false (ht ▸ hn)
    refine hr.mono (fun later h => ?_) fun later h => h.1.trans ht
    rw [he] at h
    cases h
  · have he := hd.remove hn
    refine hr.mono (fun later h => ?_) fun later h => ?_
    · rw [he] at h
      exact (Except.ok.inj h).symm
    · obtain ⟨-, error, h⟩ := h
      rw [he] at h
      cases h

/-- A file is replaced as a whole or, if there was no file at the place of the draft, not at all; then
nothing of the draft stays behind. -/
theorem ensures_replaceFile :
    host.Ensures (HostProgram.replaceFile path draft bytes)
      (fun tree => host.tree.isFile draft = false → host.tree.Underway path draft bytes tree)
      (host.tree.Moved path draft bytes)
      (fun tree => host.tree.isFile draft = false → tree = host.tree) := by
  have h := host.ensures_moved path draft bytes
  unfold HostProgram.replaceFile
  refine Ensures.bind ⟨fun step hs _ => h.steps step hs, h.ends⟩ (fun _ hm => .ofDone hm)
    fun later error hu => ?_
  have removed : later.Ensures (HostProgram.remove draft)
      (fun tree => host.tree.isFile draft = false → host.tree.Underway path draft bytes tree)
      (fun tree => host.tree.isFile draft = false → tree = host.tree)
      (fun tree => host.tree.isFile draft = false → tree = host.tree) := by
    refine .ofEnds rfl ?_ (fun _ h hn => Or.inl (Or.inl (h hn))) fun _ h hn =>
      Or.inl (Or.inl (h hn))
    by_cases hn : host.tree.isFile draft = false
    · exact (later.ends_remove_unfinished draft hu hn).mono (fun _ h _ => h) fun _ h _ => h
    · exact (later.ends_remove draft).mono (fun _ _ h => absurd h hn) fun _ _ h => absurd h hn
  exact removed.bind (fun _ h => .ofFailed error h) fun _ _ h => .ofFailed error h

end FaultyWorkspace

namespace Workspace

variable {workspace later : Workspace} {tree after : FileTree} {path draft : FilePath} {bytes : Bytes}

theorem moved_of_run_replaceFile
    (h : workspace.run (HostProgram.replaceFile path draft bytes) = (later, .ok ())) :
    workspace.tree.Moved path draft bytes later.tree := by
  have he := ((⟨workspace, []⟩ : FaultyWorkspace).ensures_replaceFile path draft bytes).ends
  rw [FaultyWorkspace.run_faultless, h] at he
  exact he

theorem run_replaceFile_of_moved (clock : Instant) (h : tree.Moved path draft bytes after) :
    (⟨tree, clock⟩ : Workspace).run (HostProgram.replaceFile path draft bytes) =
      (⟨after, clock⟩, .ok ()) := by
  obtain ⟨location, destination, hl, hd, he⟩ := h
  have h₁ : tree.create draft = .ok (tree.put location (.file [])) := by
    rw [FileTree.create, hl]
    rfl
  obtain ⟨found, hl', -, hf₁⟩ := FileTree.Drafted.fileAt ⟨location, hl, rfl⟩
  cases hl.symm.trans hl'
  have h₂ : (tree.put location (.file [])).write draft bytes =
      .ok (tree.put location (.file bytes)) := by
    rw [FileTree.write, hf₁]
    exact congrArg Except.ok (FileTree.put_put tree location _ _)
  obtain ⟨found, hl', -, hf₂⟩ := FileTree.Drafted.fileAt ⟨location, hl, rfl⟩
  cases hl.symm.trans hl'
  have h₃ : (tree.put location (.file bytes)).rename draft path = .ok after := by
    rw [FileTree.rename, hf₂, he, moved, FileTree.put_put]
    simp only [bind, Except.bind, hd]
    rfl
  have whole : (⟨tree, clock⟩ : Workspace).run (HostProgram.andThen (HostProgram.create draft)
      (HostProgram.andThen (HostProgram.write draft bytes)
        (HostProgram.andThen (HostProgram.flush draft) (HostProgram.rename draft path)))) =
      (⟨after, clock⟩, .ok ()) := by
    rw [run_andThen ((run_create _ draft).trans (congrArg _ h₁)),
      run_andThen ((run_write _ draft bytes).trans (congrArg _ h₂)),
      run_andThen (run_flush _ draft), run_rename]
    exact congrArg _ h₃
  unfold HostProgram.replaceFile
  rw [run_bind, whole]
  rfl

end Workspace

end RequestScript
