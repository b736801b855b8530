import RequestScript.Proofs.FileTree
import RequestScript.Workspace

namespace RequestScript

namespace Workspace

variable {α β : Type}

theorem run_bind (workspace : Workspace) (program : HostProgram α) (next : α → HostProgram β) :
    workspace.run (program >>= next) =
      (workspace.run program).1.run (next (workspace.run program).2) :=
  Program.run_bind respond workspace program next

theorem run_create (workspace : Workspace) (path : FilePath) :
    workspace.run (HostProgram.create path) = workspace.change (workspace.tree.create path) :=
  rfl

theorem run_write (workspace : Workspace) (path : FilePath) (bytes : Bytes) :
    workspace.run (HostProgram.write path bytes) =
      workspace.change (workspace.tree.write path bytes) :=
  rfl

theorem run_flush (workspace : Workspace) (path : FilePath) :
    workspace.run (HostProgram.flush path) = (workspace, .ok ()) :=
  rfl

theorem run_rename (workspace : Workspace) (source target : FilePath) :
    workspace.run (HostProgram.rename source target) =
      workspace.change (workspace.tree.rename source target) :=
  rfl

theorem run_makeDirectory (workspace : Workspace) (path : FilePath) :
    workspace.run (HostProgram.makeDirectory path) =
      workspace.change (workspace.tree.makeDirectory path) :=
  rfl

theorem run_isThere (workspace : Workspace) (path : FilePath) :
    workspace.run (HostProgram.isThere path) = (workspace, (workspace.tree.node? path).isSome) :=
  rfl

theorem run_isDirectory (workspace : Workspace) (path : FilePath) :
    workspace.run (HostProgram.isDirectory path) = (workspace, workspace.tree.isDirectory path) :=
  rfl

theorem run_andThen {workspace between : Workspace} {first : HostProgram (Except FileError Unit)}
    (h : workspace.run first = (between, .ok ()))
    (second : HostProgram (Except FileError Unit)) :
    workspace.run (HostProgram.andThen first second) = between.run second := by
  unfold HostProgram.andThen
  rw [run_bind, h]

/-- The tree in which a file at a draft's place has been moved over another file. -/
def moved (tree : FileTree) (draft location : Location) (bytes : Bytes) : FileTree :=
  (((tree.put draft (.file [])).put draft (.file bytes)).erase draft).put location (.file bytes)

theorem find?_moved {tree : FileTree} {draft location other : Location} {bytes : Bytes}
    (h : other ≠ []) :
    (moved tree draft location bytes).find? other =
      if other = location then some (.file bytes)
      else if other = draft then none else tree.find? other := by
  unfold moved
  rw [FileTree.find?_put h, FileTree.find?_erase h, FileTree.find?_put h, FileTree.find?_put h]
  by_cases hd : other = draft <;> simp [hd]

theorem grows_moved {tree base : FileTree} {draft location : Location} (hg : base.Grows tree)
    (hd : base.find? draft = none) (hl : base.find? location = none) (bytes : Bytes) :
    base.Grows (moved tree draft location bytes) :=
  (((hg.put hd []).put hd bytes).erase hd).put hl bytes

/-- What a chain of steps that succeeds has gone through. -/
theorem run_andThen_ok {workspace later : Workspace}
    {first second : HostProgram (Except FileError Unit)}
    (h : workspace.run (HostProgram.andThen first second) = (later, .ok ())) :
    ∃ between, workspace.run first = (between, .ok ()) ∧
      between.run second = (later, .ok ()) := by
  unfold HostProgram.andThen at h
  rw [run_bind] at h
  cases hf : workspace.run first with
  | mk between answer =>
    rw [hf] at h
    cases answer with
    | error error => cases h
    | ok value => exact ⟨between, rfl, h⟩

theorem run_isDirectory_ok {workspace later : Workspace} {path : FilePath} {error : FileError}
    (h : workspace.run (HostProgram.isDirectory path >>= fun there =>
      if there then pure (Except.ok ()) else pure (Except.error error)) = (later, .ok ())) :
    later.tree.node? path = some .directory := by
  rw [run_bind, run_isDirectory] at h
  cases hd : workspace.tree.isDirectory path with
  | false =>
    simp only [hd] at h
    cases h
  | true =>
    simp only [hd] at h
    cases h
    exact FileTree.isDirectory_iff.mp hd

theorem run_ensureDirectory_ok {workspace later : Workspace} {path : FilePath}
    (h : workspace.run (HostProgram.ensureDirectory path) = (later, .ok ())) :
    later.tree.node? path = some .directory := by
  unfold HostProgram.ensureDirectory at h
  rw [run_bind, run_makeDirectory] at h
  cases hm : workspace.tree.makeDirectory path with
  | ok tree =>
    rw [hm] at h
    cases h
    exact FileTree.node?_makeDirectory hm
  | error error =>
    rw [hm] at h
    exact run_isDirectory_ok h

theorem run_ensureChain_ok {workspace later : Workspace} {path : FilePath} {above : List FilePath}
    (ht : path.text ≠ [])
    (h : workspace.run (HostProgram.ensureChain (path :: above)) = (later, .ok ())) :
    later.tree.node? path = some .directory := by
  unfold HostProgram.ensureChain at h
  rw [if_neg ht, run_bind, run_makeDirectory] at h
  cases hm : workspace.tree.makeDirectory path with
  | ok tree =>
    rw [hm] at h
    cases h
    exact FileTree.node?_makeDirectory hm
  | error error =>
    rw [hm] at h
    change workspace.run (if error = .notFound then
      HostProgram.andThen (HostProgram.ensureChain above) (HostProgram.ensureDirectory path)
      else _) = _ at h
    split at h
    next =>
      obtain ⟨between, _, he⟩ := run_andThen_ok h
      exact run_ensureDirectory_ok he
    next => exact run_isDirectory_ok h

end Workspace

end RequestScript
