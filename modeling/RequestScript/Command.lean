import RequestScript.Cache
import RequestScript.Environment.Document
import RequestScript.Settings.Document
import RequestScript.Token.Scanner
import RequestScript.Word

namespace RequestScript.Command

/-- The forms in which the command can be called. -/
def usage : String :=
  "usage:\n  reqdef [--config <settings.json>] tokens <file>\n" ++
  "  reqdef [--config <settings.json>] expand <file> [--env <name>]\n" ++
  "  reqdef [--config <settings.json>] cache get <key>\n" ++
  "  reqdef [--config <settings.json>] cache put <key> <file>"

/-- What a user can ask for. -/
inductive Task where
  | tokens (file : String)
  | expand (file : String) (environment : Option String)
  | cacheGet (key : String)
  | cachePut (key file : String)
deriving DecidableEq

/-- The task that arguments spell out. -/
def Task.ofArguments? : List String → Option Task
  | ["tokens", file] => some (tokens file)
  | ["expand", file] => some (expand file none)
  | ["expand", file, "--env", name] => some (expand file (some name))
  | ["cache", "get", key] => some (cacheGet key)
  | ["cache", "put", key, file] => some (cachePut key file)
  | _ => none

/-- The arguments with the path of a settings file taken out, which the first `--config` announces;
nothing if no path follows it. -/
def takeSettings? (arguments : List String) : Option (Option String × List String) :=
  match arguments.span (· ≠ "--config") with
  | (before, []) => some (none, before)
  | (_, [_]) => none
  | (before, _ :: path :: after) => some (some path, before ++ after)

/-- Why a task failed. -/
inductive Failure where
  | unreadable (file : String) (error : FileError)
  | notSettings (file : String)
  | settings (error : SettingsError)
  | invalidToken (file : String) (position : Position)
  | environment (error : LoadError)
  | noEnvironmentFile (name file : String)
  | undefinedVariables (count : Nat)
  | cache (error : CacheError)
  | noFreshEntry (key : String)
deriving DecidableEq

/-- A place in a file. -/
def placeText (file : String) (position : Position) : String :=
  s!"{file}:{position.line}:{position.column}"

/-- What the user is told of a failure. -/
def Failure.message : Failure → String
  | unreadable file error => "cannot read " ++ file ++ ": " ++ error.message
  | notSettings file => "invalid settings in " ++ file ++ ": not a JSON document"
  | settings error => Settings.refusal error
  | invalidToken file position => placeText file position ++ ": invalid token"
  | environment error => error.message
  | noEnvironmentFile name file => "no " ++ name ++ " found near " ++ file
  | undefinedVariables count => s!"{count} undefined variable(s)"
  | cache error => error.message
  | noFreshEntry key => "no fresh entry for " ++ quote key

/-- What a run leaves: its exit code and what it wrote. -/
structure Outcome where
  code : Nat
  output : Bytes
  errors : String
deriving DecidableEq

/-- What a task wrote, and whether it failed. -/
structure Report where
  output : Bytes
  complaints : String
  failure? : Option Failure

namespace Report

/-- A task that wrote nothing and failed. -/
def ofFailure (failure : Failure) : Report :=
  ⟨[], "", some failure⟩

/-- The outcome of a task: a failure comes last and makes the exit code one. -/
def outcome (report : Report) : Outcome :=
  match report.failure? with
  | none => ⟨0, report.output, report.complaints⟩
  | some failure =>
    ⟨1, report.output, report.complaints ++ "reqdef: " ++ failure.message ++ "\n"⟩

end Report

/-- Texts each on a line of its own. -/
def lines (texts : List String) : String :=
  String.join (texts.map (· ++ "\n"))

/-- The token that ends a row of tokens because nothing could be made of the text. -/
def invalidToken? (tokens : List Token) : Option Token :=
  tokens.find? fun token => token.kind == .invalid

/-- The failure of a row of tokens that ends before its text does. -/
def tokenFailure? (file : String) (tokens : List Token) : Option Failure :=
  (invalidToken? tokens).map fun token => .invalidToken file token.position

/-- A line for each token. -/
def reportTokens (file : String) (tokens : List Token) : Report :=
  ⟨utf8Bytes (lines (tokens.map Token.display)), "", tokenFailure? file tokens⟩

/-- The tokens that name variables, each variable at its first place; those in `seen` are left
out. -/
def firstVariables (seen : List String) : List Token → List Token
  | [] => []
  | token :: rest =>
    if token.kind = .variableName ∧ token.literal ∉ seen then
      token :: firstVariables (token.literal :: seen) rest
    else firstVariables seen rest

/-- The line of a variable, with its value or with what is wrong with it. -/
def variableLine (file : String) (env : Environment String) (token : Token) :
    Except String String :=
  match (Word.reference token.literal).expand env with
  | .ok value => .ok (token.literal ++ " = " ++ value)
  | .error error => .error (placeText file token.position ++ ": " ++ error.message)

/-- The value of each variable in a row of tokens. -/
def reportVariables (file : String) (env : Environment String) (tokens : List Token) : Report :=
  let results := (firstVariables [] tokens).map (variableLine file env)
  let values := results.filterMap Except.toOption
  let complaints := results.filterMap fun
    | .ok _ => none
    | .error complaint => some complaint
  let undefined? : Option Failure :=
    if complaints = [] then none else some (.undefinedVariables complaints.length)
  ⟨utf8Bytes (lines values), lines complaints, (tokenFailure? file tokens).or undefined?⟩

/-- The directory of a file. -/
def directoryOf (file : FilePath) : FilePath :=
  match file.parent? with
  | some parent => if parent.text = [] then ⟨['.']⟩ else parent
  | none => ⟨['.']⟩

/-- The environment that goes with a file; without an environment file it is empty, unless a name
is asked for. -/
def environmentFor (settings : Settings) (file : String) (name : Option String) :
    HostProgram (Except Failure (Environment String)) := do
  match ← Environment.search (directoryOf (.ofString file)) settings.environmentFile with
  | some path => return (← Environment.load path name).mapError .environment
  | none =>
    if name.isSome then return .error (.noEnvironmentFile settings.environmentFile file)
    else return .ok .root

/-- The tokens of a file. -/
def tokensOf (settings : Settings) (file : String) : HostProgram (Except Failure (List Token)) := do
  match ← HostProgram.readText (.ofString file) with
  | .ok source => return .ok (tokenize settings.reserved source)
  | .error error => return .error (.unreadable file error)

/-- A program on the cache that settings name. -/
def withCache {α : Type} (settings : Settings) (tag : List Char)
    (program : CacheProgram (Except CacheError α)) : HostProgram (Except CacheError α) := do
  match ← Cache.openAt (.ofString settings.cacheFile) with
  | .error error => return .error error
  | .ok store => return (← store.serve tag program).2

/-- The nanoseconds for which settings keep a response fresh. -/
def ttl (settings : Settings) : Nat :=
  settings.cacheTtlSecs * 1000000000

/-- Stores data and closes the cache. -/
def putAndClose (key : String) (data : Bytes) : CacheProgram (Except CacheError Unit) := do
  match ← Cache.put key data with
  | .ok () => Cache.close
  | .error error => return .error error

/-- What a task writes, and whether it fails; `tag` names what it writes for a moment only. -/
def Task.report (settings : Settings) (tag : List Char) : Task → HostProgram Report
  | tokens file => do
    match ← tokensOf settings file with
    | .error failure => return .ofFailure failure
    | .ok read => return reportTokens file read
  | expand file name => do
    match ← tokensOf settings file with
    | .error failure => return .ofFailure failure
    | .ok read =>
      match ← environmentFor settings file name with
      | .error failure => return .ofFailure failure
      | .ok env => return reportVariables file env read
  | cacheGet key => do
    match ← withCache settings tag (Cache.get key (ttl settings)) with
    | .ok data => return ⟨data, "", none⟩
    | .error .miss => return .ofFailure (.noFreshEntry key)
    | .error error => return .ofFailure (.cache error)
  | cachePut key file => do
    match ← HostProgram.read (.ofString file) with
    | .error error => return .ofFailure (.unreadable file error)
    | .ok data =>
      match ← withCache settings tag (putAndClose key data) with
      | .ok () => return ⟨[], "", none⟩
      | .error error => return .ofFailure (.cache error)

/-- The settings of a file, which have to be without a fault. -/
def readSettings (file : String) : HostProgram (Except Failure Settings) := do
  match ← HostProgram.readText (.ofString file) with
  | .error error => return .error (.unreadable file error)
  | .ok text =>
    match Json.read? text with
    | none => return .error (.notSettings file)
    | some document => return ((Settings.default.load (some document)).2).mapError .settings

/-- The settings to work with. -/
def settingsFrom : Option String → HostProgram (Except Failure Settings)
  | none => return .ok .default
  | some file => readSettings file

/-- A run with given arguments. Settings are read before the task is looked at. -/
def run (tag : List Char) (arguments : List String) : HostProgram Outcome := do
  match takeSettings? arguments with
  | none => return ⟨2, [], "--config requires a path\n" ++ usage ++ "\n"⟩
  | some (file, rest) =>
    match ← settingsFrom file with
    | .error failure => return (Report.ofFailure failure).outcome
    | .ok settings =>
      match Task.ofArguments? rest with
      | none => return ⟨2, [], usage ++ "\n"⟩
      | some task => return (← task.report settings tag).outcome

end RequestScript.Command
