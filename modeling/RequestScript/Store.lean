import RequestScript.Base64
import RequestScript.Bindings
import RequestScript.FilePath
import RequestScript.Text.Quoted

namespace RequestScript

/-- Why a store did not do what it was asked. -/
inductive StoreError where
  | file (error : FileError)
  /-- the file of the store is no map of strings -/
  | corrupt (path : String)
  | badValue (key : String) (error : Base64Error)
  | closed
deriving DecidableEq

def StoreError.message : StoreError → String
  | file error => "cache store I/O error: " ++ error.message
  | corrupt path => "cache store is corrupt: " ++ path ++ ": not a JSON object of strings"
  | badValue key error => "undecodable cache value: " ++ quote key ++ ": " ++ error.message
  | closed => "cache store is closed"

/-- What can be asked of a store that keeps byte strings under keys. -/
inductive StoreCall where
  | get (key : String)
  | put (key : String) (value : Bytes)
  | delete (key : String)
  | close
deriving DecidableEq

def StoreCall.Answer : StoreCall → Type
  | get _ => Except StoreError (Option Bytes)
  | put _ _ => Except StoreError Unit
  | delete _ => Except StoreError Unit
  | close => Except StoreError Unit

/-- The answer of a closed store, which can be closed once more. -/
def StoreCall.whenClosed : (call : StoreCall) → call.Answer
  | get _ => .error .closed
  | put _ _ => .error .closed
  | delete _ => .error .closed
  | close => .ok ()

/-- A store in memory; once closed it has no values. -/
structure MemoryStore where
  values : Option (Bindings Bytes)

namespace MemoryStore

/-- An open store without values. -/
def empty : MemoryStore :=
  ⟨some ∅⟩

/-- The number of keys. -/
def size (store : MemoryStore) : Nat :=
  (store.values.map Bindings.size).getD 0

def isEmpty (store : MemoryStore) : Bool :=
  store.size == 0

/-- A call on an open store with the given values. -/
def callOpen (values : Bindings Bytes) : (call : StoreCall) → MemoryStore × call.Answer
  | .get key => (⟨some values⟩, .ok (values.find? key))
  | .put key value => (⟨some (values.insert key value)⟩, .ok ())
  | .delete key => (⟨some (values.erase key)⟩, .ok ())
  | .close => (⟨none⟩, .ok ())

/-- The store after a call, and the answer. -/
def call (store : MemoryStore) (call : StoreCall) : MemoryStore × call.Answer :=
  match store.values with
  | some values => callOpen values call
  | none => (store, call.whenClosed)

end MemoryStore

end RequestScript
