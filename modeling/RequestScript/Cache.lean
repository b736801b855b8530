import RequestScript.CacheEntry
import RequestScript.FileStore

namespace RequestScript

/-- Why a cache gave no value. -/
inductive CacheError where
  /-- nothing that could be used -/
  | miss
  | store (error : StoreError)
deriving DecidableEq

def CacheError.message : CacheError → String
  | miss => "cache miss"
  | store error => error.message

def CacheError.isMiss : CacheError → Bool
  | miss => true
  | store _ => false

/-- What a cache asks for: the time, or something of its store. -/
inductive CacheRequest where
  | now
  | store (call : StoreCall)

def CacheRequest.Answer : CacheRequest → Type
  | now => Instant
  | store call => call.Answer

abbrev CacheProgram := Program CacheRequest CacheRequest.Answer

namespace Cache

def now : CacheProgram Instant :=
  .ask .now .done

def storeGet (key : String) : CacheProgram (Except StoreError (Option Bytes)) :=
  .ask (.store (.get key)) .done

def storePut (key : String) (value : Bytes) : CacheProgram (Except StoreError Unit) :=
  .ask (.store (.put key value)) .done

def storeDelete (key : String) : CacheProgram (Except StoreError Unit) :=
  .ask (.store (.delete key)) .done

def storeClose : CacheProgram (Except StoreError Unit) :=
  .ask (.store .close) .done

/-- The entry under a key, whatever its age; one that cannot be decoded is as good as none. -/
def peek (key : String) : CacheProgram (Except CacheError (Option CacheEntry)) := do
  match ← storeGet key with
  | .ok (some bytes) => return .ok (CacheEntry.decode? bytes)
  | .ok none => return .ok none
  | .error (.badValue _ _) => return .ok none
  | .error error => return .error (.store error)

/-- The data under a key, if they are younger than `ttl` nanoseconds; older ones are deleted. -/
def get (key : String) (ttl : Nat) : CacheProgram (Except CacheError Bytes) := do
  match ← peek key with
  | .error error => return .error error
  | .ok none => return .error .miss
  | .ok (some entry) =>
    if ttl ≤ entry.age (← now) then
      match ← storeDelete key with
      | .ok () => return .error .miss
      | .error error => return .error (.store error)
    else return .ok entry.data

/-- Stores data under a key, with the time. -/
def put (key : String) (data : Bytes) : CacheProgram (Except CacheError Unit) := do
  let entry := CacheEntry.ofData data (← now)
  return (← storePut key entry.encode).mapError .store

def close : CacheProgram (Except CacheError Unit) := do
  return (← storeClose).mapError .store

end Cache

/-- A clock that stands still and a store in memory, as the surroundings of a cache. -/
structure MemoryCache where
  clock : Instant
  store : MemoryStore

def MemoryCache.respond (cache : MemoryCache) :
    (request : CacheRequest) → MemoryCache × request.Answer
  | .now => (cache, cache.clock)
  | .store call =>
    let (store, answer) := cache.store.call call
    ({ cache with store }, answer)

/-- The value of a program on a cache in memory, and what becomes of the cache. -/
def MemoryCache.run {α : Type} (cache : MemoryCache) (program : CacheProgram α) :
    MemoryCache × α :=
  program.run respond cache

/-- A program on a cache that is kept in a file, with what becomes of the store. -/
def FileStore.serve {α : Type} (store : FileStore) (tag : List Char) :
    CacheProgram α → HostProgram (FileStore × α)
  | .done value => .done (store, value)
  | .ask .now next => .ask .now fun instant => store.serve tag (next instant)
  | .ask (.store call) next => (store.call tag call).bind fun (store, answer) =>
    store.serve tag (next answer)

/-- The store of a cache in a given file. -/
def Cache.openAt (path : FilePath) : HostProgram (Except CacheError FileStore) := do
  return (← FileStore.openAt path).mapError .store

end RequestScript
