import RequestScript.FileTree
import RequestScript.Host

namespace RequestScript

/-- A machine made of a file tree and a clock that stands still. -/
structure Workspace where
  tree : FileTree
  clock : Instant

namespace Workspace

/-- The tree after a change, which leaves it alone if it fails. -/
def change (workspace : Workspace) : Except FileError FileTree → Workspace × Except FileError Unit
  | .ok tree => ({ workspace with tree }, .ok ())
  | .error error => (workspace, .error error)

/-- How a workspace answers a request. -/
def respond (workspace : Workspace) : (request : HostRequest) → Workspace × request.Answer
  | .now => (workspace, workspace.clock)
  | .read path => (workspace, workspace.tree.read path)
  | .create path => workspace.change (workspace.tree.create path)
  | .write path bytes => workspace.change (workspace.tree.write path bytes)
  | .flush _ => (workspace, .ok ())
  | .rename source target => workspace.change (workspace.tree.rename source target)
  | .remove path => workspace.change (workspace.tree.remove path)
  | .makeDirectory path => workspace.change (workspace.tree.makeDirectory path)
  | .isThere path => (workspace, (workspace.tree.node? path).isSome)
  | .isFile path => (workspace, workspace.tree.isFile path)
  | .isDirectory path => (workspace, workspace.tree.isDirectory path)

/-- The value of a program that runs in a workspace, and what becomes of the workspace. -/
def run {α : Type} (workspace : Workspace) (program : HostProgram α) : Workspace × α :=
  program.run respond workspace

end Workspace

end RequestScript
