import RequestScript.FilePath
import RequestScript.Instant
import RequestScript.Program
import RequestScript.Text.Utf8

namespace RequestScript

/-- What a program can ask of the machine that it runs on. -/
inductive HostRequest where
  | now
  | read (path : FilePath)
  | create (path : FilePath)
  | write (path : FilePath) (bytes : Bytes)
  | flush (path : FilePath)
  | rename (source target : FilePath)
  | remove (path : FilePath)
  | makeDirectory (path : FilePath)
  | isThere (path : FilePath)
  | isFile (path : FilePath)
  | isDirectory (path : FilePath)
deriving DecidableEq

def HostRequest.Answer : HostRequest → Type
  | now => Instant
  | read _ => Except FileError Bytes
  | create _ => Except FileError Unit
  | write _ _ => Except FileError Unit
  | flush _ => Except FileError Unit
  | rename _ _ => Except FileError Unit
  | remove _ => Except FileError Unit
  | makeDirectory _ => Except FileError Unit
  | isThere _ => Bool
  | isFile _ => Bool
  | isDirectory _ => Bool

abbrev HostProgram := Program HostRequest HostRequest.Answer

namespace HostProgram

def now : HostProgram Instant :=
  .ask .now .done

def read (path : FilePath) : HostProgram (Except FileError Bytes) :=
  .ask (.read path) .done

def create (path : FilePath) : HostProgram (Except FileError Unit) :=
  .ask (.create path) .done

def write (path : FilePath) (bytes : Bytes) : HostProgram (Except FileError Unit) :=
  .ask (.write path bytes) .done

def flush (path : FilePath) : HostProgram (Except FileError Unit) :=
  .ask (.flush path) .done

def rename (source target : FilePath) : HostProgram (Except FileError Unit) :=
  .ask (.rename source target) .done

def remove (path : FilePath) : HostProgram (Except FileError Unit) :=
  .ask (.remove path) .done

def makeDirectory (path : FilePath) : HostProgram (Except FileError Unit) :=
  .ask (.makeDirectory path) .done

def isThere (path : FilePath) : HostProgram Bool :=
  .ask (.isThere path) .done

def isFile (path : FilePath) : HostProgram Bool :=
  .ask (.isFile path) .done

def isDirectory (path : FilePath) : HostProgram Bool :=
  .ask (.isDirectory path) .done

/-- One step after another, up to the first that fails. -/
def andThen (first second : HostProgram (Except FileError Unit)) :
    HostProgram (Except FileError Unit) := do
  match ← first with
  | .ok () => second
  | .error error => return .error error

/-- The text of a file. -/
def readText (path : FilePath) : HostProgram (Except FileError String) := do
  match ← read path with
  | .error error => return .error error
  | .ok bytes =>
    match decodeText? bytes with
    | some text => return .ok text
    | none => return .error .badText

/-- Makes a directory; one that is there already is as good. -/
def ensureDirectory (path : FilePath) : HostProgram (Except FileError Unit) := do
  match ← makeDirectory path with
  | .ok () => return .ok ()
  | .error error => if ← isDirectory path then return .ok () else return .error error

/-- Makes the first of some directories; each lies in the one after it, which is made before it if
it is not there. -/
def ensureChain : List FilePath → HostProgram (Except FileError Unit)
  | [] => return .error .incompleteTree
  | path :: above => do
    if path.text = [] then return .ok ()
    match ← makeDirectory path with
    | .ok () => return .ok ()
    | .error error =>
      if error = .notFound then andThen (ensureChain above) (ensureDirectory path)
      else if ← isDirectory path then return .ok ()
      else return .error error

/-- Makes a directory and those around it, as far as they are not there. -/
def ensureDirectories (path : FilePath) : HostProgram (Except FileError Unit) :=
  ensureChain (path :: path.ancestors)

/-- Writes a file under another name and then gives it its own, so that at no time half of it can
be read; if a step fails, nothing is left under the other name. -/
def replaceFile (path draft : FilePath) (bytes : Bytes) : HostProgram (Except FileError Unit) := do
  match ← andThen (create draft) (andThen (write draft bytes) (andThen (flush draft)
      (rename draft path))) with
  | .ok () => return .ok ()
  | .error error =>
    let _ ← remove draft
    return .error error

end HostProgram

end RequestScript
