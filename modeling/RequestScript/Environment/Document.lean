import RequestScript.Environment
import RequestScript.Host
import RequestScript.Json.Reader

namespace RequestScript

/-- A fault in the form of an environment document. -/
inductive DocumentFault where
  | rootNotObject
  | notObject (context : String)
  | badName (name : String)
  | badVariable (name context : String)
deriving DecidableEq

def DocumentFault.message : DocumentFault → String
  | rootNotObject => "Root must be a JSON object"
  | notObject context => "'" ++ context ++ "' must be a JSON object"
  | badName name =>
    "Invalid environment name: '" ++ name ++
      "'. Names must be alphanumeric with underscores/hyphens"
  | badVariable name context =>
    "Variable '" ++ name ++ "' in '" ++ context ++
      "' has invalid type (must be string, number, or boolean)"

/-- Why no environment could be loaded. -/
inductive LoadError where
  | file (error : FileError)
  | notJson
  | badForm (fault : DocumentFault)
  | unknownEnvironment (name : String)
deriving DecidableEq

def LoadError.message : LoadError → String
  | file error => "IO error: " ++ error.message
  | notJson => "Failed to parse environment file: not a JSON document"
  | badForm fault => "Invalid environment format: " ++ fault.message
  | unknownEnvironment name => "Environment '" ++ name ++ "' not found"

/-- An environment name starts with an ASCII letter or an underscore and goes on with ASCII letters,
digits, underscores and hyphens. -/
def isEnvironmentName (name : String) : Bool :=
  match name.toList with
  | [] => false
  | c :: cs => (c.isAlpha || c == '_') && cs.all fun c => c.isAlphanum || c == '_' || c == '-'

/-- A scalar as text; nothing becomes the empty text. -/
def scalarText? : Json → Option String
  | .string text => some text
  | .number number => some (String.ofList number.toText)
  | .bool true => some "true"
  | .bool false => some "false"
  | .null => some ""
  | _ => none

/-- Bindings with those of an object's members added in order. -/
def addVariables (context : String) (bindings : Bindings String) :
    List (String × Json) → Except DocumentFault (Bindings String)
  | [] => .ok bindings
  | (name, value) :: members =>
    match scalarText? value with
    | some text => addVariables context (bindings.insert name text) members
    | none => .error (.badVariable name context)

/-- The bindings of an object; `context` names it where it has a fault. -/
def variablesOf (context : String) (value : Json) : Except DocumentFault (Bindings String) :=
  match value.object? with
  | some members => addVariables context ∅ members
  | none => .error (.notObject context)

/-- What an environment document declares. -/
structure EnvironmentDocument where
  shared : Bindings String
  environments : Bindings (Bindings String)
  active : Option String

namespace EnvironmentDocument

def empty : EnvironmentDocument :=
  ⟨∅, ∅, none⟩

/-- The document with one more member of the root object, in place of an earlier one of its kind. -/
def addMember (document : EnvironmentDocument) (key : String) (value : Json) :
    Except DocumentFault EnvironmentDocument :=
  if key = "shared" ∨ key = "$shared" then do
    return { document with shared := ← variablesOf "shared" value }
  else if key = "active" ∨ key = "$active" then
    .ok { document with active := value.string? }
  else if isEnvironmentName key then do
    return { document with
      environments := document.environments.insert key (← variablesOf key value) }
  else .error (.badName key)

/-- The document that a JSON value is; the first member with a fault is reported. -/
def ofJson (value : Json) : Except DocumentFault EnvironmentDocument :=
  match value.object? with
  | some members => members.foldlM (fun document member => document.addMember member.1 member.2) empty
  | none => .error .rootNotObject

/-- The environment with a given name, or the one that the document names, inside the shared scope;
without a name the shared scope itself. -/
def select (document : EnvironmentDocument) (name : Option String) :
    Except LoadError (Environment String) :=
  match name.or document.active with
  | none => .ok ⟨document.shared, []⟩
  | some name =>
    match document.environments.find? name with
    | some scope => .ok ⟨scope, [document.shared]⟩
    | none => .error (.unknownEnvironment name)

end EnvironmentDocument

/-- The environment that a JSON value declares under a name, or by default. -/
def Environment.ofJson (value : Json) (name : Option String) :
    Except LoadError (Environment String) := do
  let document ← (EnvironmentDocument.ofJson value).mapError .badForm
  document.select name

/-- The environment that the text of a document declares. -/
def Environment.ofDocument (text : String) (name : Option String) :
    Except LoadError (Environment String) :=
  match Json.read? text with
  | some value => ofJson value name
  | none => .error .notJson

namespace Environment

/-- The first of some directories that has a file of the given name. -/
def findFile (name : FilePath) : List FilePath → HostProgram (Option FilePath)
  | [] => return none
  | directory :: rest => do
    if ← HostProgram.isFile (directory.join name) then return some (directory.join name)
    findFile name rest

/-- How many directories are searched at most. -/
def searchedDirectories : Nat := 4

/-- The environment file of a given name in a directory or the nearest of those above it. -/
def search (start : FilePath) (name : String) : HostProgram (Option FilePath) :=
  findFile (.ofString name) ((start :: start.ancestors).take searchedDirectories)

/-- The environment that a file declares under a name, or by default. -/
def load (path : FilePath) (name : Option String) :
    HostProgram (Except LoadError (Environment String)) := do
  match ← HostProgram.readText path with
  | .error error => return .error (.file error)
  | .ok text => return ofDocument text name

end Environment

end RequestScript
