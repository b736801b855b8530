import RequestScript.Host
import RequestScript.Store
import RequestScript.StoreFile

namespace RequestScript

/-- A store whose values are kept as base 64 in one file. -/
structure FileStore where
  path : FilePath
  isOpen : Bool
deriving DecidableEq

namespace FileStore

/-- A store with a given file; the directories around the file are made, the file is not. -/
def openAt (path : FilePath) : HostProgram (Except StoreError FileStore) := do
  match path.parent? with
  | none => return .ok ⟨path, true⟩
  | some parent =>
    if parent.text = [] then return .ok ⟨path, true⟩
    if ← HostProgram.isThere parent then return .ok ⟨path, true⟩
    match ← HostProgram.ensureDirectories parent with
    | .ok () => return .ok ⟨path, true⟩
    | .error error => return .error (.file error)

/-- The texts in the file of a store; where there is no file there are none. -/
def texts (path : FilePath) : HostProgram (Except StoreError (Bindings String)) := do
  match ← HostProgram.readText path with
  | .error error => return if error = .notFound then .ok ∅ else .error (.file error)
  | .ok text =>
    match StoreFile.read? text with
    | some texts => return .ok texts
    | none => return .error (.corrupt path.toString)

/-- The path that a file is written to before it replaces that of the store. -/
def draftOf (path : FilePath) (tag : List Char) : FilePath :=
  path.withExtension (tag ++ ['.', 't', 'm', 'p'])

/-- Replaces the file of a store. -/
def save (path : FilePath) (tag : List Char) (texts : Bindings String) :
    HostProgram (Except StoreError Unit) := do
  let written ← HostProgram.replaceFile path (draftOf path tag) (encodeText (StoreFile.print texts))
  return written.mapError .file

/-- The value that a text in a store file stands for. -/
def valueOf (key text : String) : Except StoreError Bytes :=
  (Base64.standard.decode text.toList).mapError (.badValue key)

def get (path : FilePath) (key : String) : HostProgram (Except StoreError (Option Bytes)) := do
  match ← texts path with
  | .error error => return .error error
  | .ok texts =>
    match texts.find? key with
    | none => return .ok none
    | some text => return (valueOf key text).map some

def put (path : FilePath) (tag : List Char) (key : String) (value : Bytes) :
    HostProgram (Except StoreError Unit) := do
  match ← texts path with
  | .error error => return .error error
  | .ok texts =>
    save path tag (texts.insert key (String.ofList (Base64.standard.encode true value)))

/-- Removes a key; without it the file is left alone. -/
def delete (path : FilePath) (tag : List Char) (key : String) :
    HostProgram (Except StoreError Unit) := do
  match ← texts path with
  | .error error => return .error error
  | .ok texts =>
    if texts.contains key then save path tag (texts.erase key) else return .ok ()

/-- A call on an open store, which names its drafts by `tag`. -/
def callOpen (path : FilePath) (tag : List Char) :
    (call : StoreCall) → HostProgram (FileStore × call.Answer)
  | .get key => do return (⟨path, true⟩, ← get path key)
  | .put key value => do return (⟨path, true⟩, ← put path tag key value)
  | .delete key => do return (⟨path, true⟩, ← delete path tag key)
  | .close => return (⟨path, false⟩, .ok ())

/-- The store after a call, and the answer. -/
def call (store : FileStore) (tag : List Char) (call : StoreCall) :
    HostProgram (FileStore × call.Answer) :=
  if store.isOpen then callOpen store.path tag call else return (store, call.whenClosed)

end FileStore

end RequestScript
