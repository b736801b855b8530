import RequestScript.Proofs.FileTree.Content
import RequestScript.Proofs.Program
import RequestScript.Proofs.Workspace

namespace RequestScript

/-- What goes wrong with a request. -/
inductive Fault where
  /-- nothing at all has been done -/
  | refused (reason : String)
  /-- a new file has been left empty, or with some of the bytes that it was to get -/
  | cutShort (reason : String) (count : Nat)

namespace Fault

def error : Fault → FileError
  | refused reason => .other reason
  | cutShort reason _ => .other reason

/-- The answer to a request that goes wrong. A removal does not, nor does a look at the clock or at
what is there. -/
def answer? (fault : Fault) : (request : HostRequest) → Option request.Answer
  | .read _ => some (.error fault.error)
  | .create _ => some (.error fault.error)
  | .write _ _ => some (.error fault.error)
  | .flush _ => some (.error fault.error)
  | .rename _ _ => some (.error fault.error)
  | .makeDirectory _ => some (.error fault.error)
  | .now => none
  | .remove _ => none
  | .isThere _ => none
  | .isFile _ => none
  | .isDirectory _ => none

/-- What a request that goes wrong makes of a tree. -/
def leaves : Fault → FileTree → HostRequest → FileTree
  | cutShort _ _, tree, .create path => (tree.create path).toOption.getD tree
  | cutShort _ count, tree, .write path bytes =>
    (tree.write path (bytes.take count)).toOption.getD tree
  | _, tree, _ => tree

end Fault

/-- A workspace in which some of the requests to come go wrong. -/
structure FaultyWorkspace extends Workspace where
  faults : List (Option Fault)

namespace FaultyWorkspace

/-- A request that goes well. -/
def proceed (host : FaultyWorkspace) (request : HostRequest) :
    FaultyWorkspace × request.Answer :=
  let (workspace, answer) := host.toWorkspace.respond request
  (⟨workspace, host.faults.tail⟩, answer)

def respond (host : FaultyWorkspace) (request : HostRequest) : FaultyWorkspace × request.Answer :=
  match host.faults.head?.join with
  | none => host.proceed request
  | some fault =>
    match fault.answer? request with
    | none => host.proceed request
    | some answer => (⟨⟨fault.leaves host.tree request, host.clock⟩, host.faults.tail⟩, answer)

variable {α β : Type}

/-- The value of a program that runs in a workspace with faults, and what becomes of it. -/
def run (host : FaultyWorkspace) (program : HostProgram α) : FaultyWorkspace × α :=
  program.run respond host

/-- The requests of a program, each with the workspace after it. -/
def trace (host : FaultyWorkspace) (program : HostProgram α) :
    List (HostRequest × FaultyWorkspace) :=
  program.trace respond host

theorem run_bind (host : FaultyWorkspace) (program : HostProgram α) (next : α → HostProgram β) :
    host.run (program >>= next) = (host.run program).1.run (next (host.run program).2) :=
  Program.run_bind respond host program next

theorem trace_bind (host : FaultyWorkspace) (program : HostProgram α)
    (next : α → HostProgram β) :
    host.trace (program >>= next) =
      host.trace program ++ (host.run program).1.trace (next (host.run program).2) :=
  Program.trace_bind respond host program next

/-- Where nothing goes wrong a program runs as in any workspace. -/
theorem run_faultless (workspace : Workspace) (program : HostProgram α) :
    (⟨workspace, []⟩ : FaultyWorkspace).run program =
      (⟨(workspace.run program).1, []⟩, (workspace.run program).2) :=
  Program.run_map Workspace.respond respond (fun workspace => ⟨workspace, []⟩) (fun _ _ => rfl)
    workspace program

theorem respond_now (host : FaultyWorkspace) :
    host.respond .now = (⟨host.toWorkspace, host.faults.tail⟩, host.clock) := by
  unfold respond
  cases host.faults.head?.join <;> rfl

/-- What an attempt leaves behind, by whether it has succeeded. -/
def Ends (result : FaultyWorkspace × Except FileError Unit) (done failed : FileTree → Prop) :
    Prop :=
  match result with
  | (later, .ok ()) => done later.tree
  | (later, .error _) => failed later.tree

theorem Ends.mono {result : FaultyWorkspace × Except FileError Unit}
    {done failed done' failed' : FileTree → Prop} (h : Ends result done failed)
    (hd : ∀ tree, done tree → done' tree) (hf : ∀ tree, failed tree → failed' tree) :
    Ends result done' failed' := by
  obtain ⟨later, answer⟩ := result
  cases answer with
  | ok value => exact hd _ h
  | error error => exact hf _ h

theorem ends_change (host : FaultyWorkspace) (changed : Except FileError FileTree) :
    Ends (⟨(host.toWorkspace.change changed).1, host.faults.tail⟩,
      (host.toWorkspace.change changed).2) (fun tree => changed = .ok tree)
      (fun tree => tree = host.tree ∧ ∃ error, changed = .error error) := by
  cases changed with
  | ok tree => rfl
  | error error => exact ⟨rfl, error, rfl⟩

variable (host : FaultyWorkspace) (path : FilePath)

theorem ends_create : Ends (host.run (HostProgram.create path))
    (fun tree => host.tree.create path = .ok tree)
    (fun tree => tree = host.tree ∨ host.tree.create path = .ok tree) := by
  show Ends (host.respond (.create path)) _ _
  unfold respond
  cases host.faults.head?.join with
  | none => exact (ends_change host _).mono (fun _ h => h) fun _ h => Or.inl h.1
  | some fault =>
    cases fault with
    | refused reason => exact Or.inl rfl
    | cutShort reason count =>
      show _ = _ ∨ _ = _
      simp only [Fault.leaves]
      cases host.tree.create path with
      | error error => exact Or.inl rfl
      | ok tree => exact Or.inr rfl

theorem ends_write (bytes : Bytes) : Ends (host.run (HostProgram.write path bytes))
    (fun tree => host.tree.write path bytes = .ok tree)
    (fun tree => tree = host.tree ∨ ∃ part, host.tree.write path part = .ok tree) := by
  show Ends (host.respond (.write path bytes)) _ _
  unfold respond
  cases host.faults.head?.join with
  | none => exact (ends_change host _).mono (fun _ h => h) fun _ h => Or.inl h.1
  | some fault =>
    cases fault with
    | refused reason => exact Or.inl rfl
    | cutShort reason count =>
      show _ = _ ∨ ∃ part, _ = _
      simp only [Fault.leaves]
      cases hw : host.tree.write path (bytes.take count) with
      | error error => exact Or.inl rfl
      | ok tree => exact Or.inr ⟨_, hw⟩

theorem ends_flush : Ends (host.run (HostProgram.flush path))
    (fun tree => tree = host.tree) (fun tree => tree = host.tree) := by
  show Ends (host.respond (.flush path)) _ _
  unfold respond
  cases host.faults.head?.join with
  | none => rfl
  | some fault => cases fault <;> rfl

theorem ends_rename (target : FilePath) : Ends (host.run (HostProgram.rename path target))
    (fun tree => host.tree.rename path target = .ok tree) (fun tree => tree = host.tree) := by
  show Ends (host.respond (.rename path target)) _ _
  unfold respond
  cases host.faults.head?.join with
  | none => exact (ends_change host _).mono (fun _ h => h) fun _ h => h.1
  | some fault => cases fault <;> rfl

/-- A removal is never refused without need. -/
theorem ends_remove : Ends (host.run (HostProgram.remove path))
    (fun tree => host.tree.remove path = .ok tree)
    (fun tree => tree = host.tree ∧ ∃ error, host.tree.remove path = .error error) := by
  show Ends (host.respond (.remove path)) _ _
  unfold respond
  cases host.faults.head?.join with
  | none => exact ends_change host _
  | some fault => exact ends_change host _

end FaultyWorkspace

end RequestScript
