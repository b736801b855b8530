import RequestScript.Base64
import RequestScript.Instant.Printer
import RequestScript.Instant.Reader
import RequestScript.Json.Printer
import RequestScript.Json.Record
import RequestScript.Sha256

namespace RequestScript

/-- A response with the time at which it was stored and the digest that it had then. -/
structure CacheEntry where
  storedAt : Instant
  data : Bytes
  checksum : String
deriving DecidableEq

namespace CacheEntry

def ofData (data : Bytes) (now : Instant) : CacheEntry :=
  ⟨now, data, Sha256.hexDigest data⟩

/-- Whether the data still have their digest. -/
def isIntact (entry : CacheEntry) : Bool :=
  Sha256.hexDigest entry.data == entry.checksum

/-- The age of an entry in nanoseconds; one from the future has none. -/
def age (entry : CacheEntry) (now : Instant) : Nat :=
  entry.storedAt.elapsed now

def toJson (entry : CacheEntry) : Json :=
  .object [
    ("when", .string entry.storedAt.toText),
    ("data", .string (String.ofList (Base64.standard.encode true entry.data))),
    ("checksum", .string entry.checksum)]

def ofRaw? (raw : Json.Raw) : Option CacheEntry :=
  match raw.fields? ["when", "data", "checksum"] with
  | some [some storedAt, some data, some checksum] => do
    some {
      storedAt := ← Instant.read? (← storedAt.string?).toList
      data := ← Base64.standard.decode? (← data.string?).toList
      checksum := ← checksum.string? }
  | _ => none

/-- The bytes under which an entry is stored. -/
def encode (entry : CacheEntry) : Bytes :=
  encodeText entry.toJson.print

/-- The entry that stored bytes hold. -/
def decode? (bytes : Bytes) : Option CacheEntry := do
  ofRaw? (← Json.readRaw (decodeBytes bytes))

end CacheEntry

end RequestScript
