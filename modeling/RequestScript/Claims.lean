import RequestScript.Base64
import RequestScript.Json.Printer
import RequestScript.Word

namespace RequestScript

inductive ClaimValue where
  | single (text : String)
  | list (texts : List String)
deriving DecidableEq

/-- A list of pairs in which a name has a new value: at its old place, or at the end. -/
def setByName (name : String) (value : ClaimValue) :
    List (String × ClaimValue) → List (String × ClaimValue)
  | [] => [(name, value)]
  | (other, old) :: rest =>
    if other = name then (name, value) :: rest else (other, old) :: setByName name value rest

theorem mem_names_setByName {name other : String} {value : ClaimValue}
    {entries : List (String × ClaimValue)} :
    other ∈ (setByName name value entries).map Prod.fst ↔
      other = name ∨ other ∈ entries.map Prod.fst := by
  induction entries with
  | nil => simp [setByName]
  | cons entry rest ih =>
    obtain ⟨first, old⟩ := entry
    by_cases h : first = name
    · subst h
      simp [setByName]
    · simp only [setByName, h, if_false, List.map_cons, List.mem_cons, ih]
      exact or_left_comm

theorem nodup_setByName {name : String} {value : ClaimValue} {entries : List (String × ClaimValue)}
    (h : (entries.map Prod.fst).Nodup) : ((setByName name value entries).map Prod.fst).Nodup := by
  induction entries with
  | nil => simp [setByName]
  | cons entry rest ih =>
    obtain ⟨first, old⟩ := entry
    have ⟨hf, hr⟩ := List.nodup_cons.mp h
    by_cases hn : first = name
    · subst hn
      simpa [setByName] using h
    · simp only [setByName, hn, if_false, List.map_cons, List.nodup_cons]
      refine ⟨fun hm => ?_, ih hr⟩
      rcases mem_names_setByName.mp hm with he | he
      · exact hn he
      · exact hf he

/-- Claims under distinct names, in the order in which the names first came. -/
structure Claims where
  entries : List (String × ClaimValue)
  distinct : (entries.map Prod.fst).Nodup

namespace Claims

def empty : Claims :=
  ⟨[], List.nodup_nil⟩

def insert (claims : Claims) (name : String) (value : ClaimValue) : Claims :=
  ⟨setByName name value claims.entries, nodup_setByName claims.distinct⟩

def find? (claims : Claims) (name : String) : Option ClaimValue :=
  claims.entries.lookup name

def size (claims : Claims) : Nat :=
  claims.entries.length

def isEmpty (claims : Claims) : Bool :=
  claims.entries.isEmpty

end Claims

/-- A single claim is a string and a list of them an array. -/
def ClaimValue.toJson : ClaimValue → Json
  | single text => .string text
  | list texts => .array (texts.map .string)

def Claims.toJson (claims : Claims) : Json :=
  .object (claims.entries.map fun entry => (entry.1, entry.2.toJson))

/-- The value of a claim given by words: one word makes a single claim, any other number a list. -/
def ClaimValue.ofWords (env : Environment String) : List Word → Except ExpandError ClaimValue
  | [word] => do return single (← word.expand env)
  | words => do return list (← words.mapM fun word => word.expand env)

/-- The claims added one after the other to those before, unless a word fails. -/
def Claims.addAll (env : Environment String) (claims : Claims) :
    List (String × List Word) → Except ExpandError Claims
  | [] => .ok claims
  | (name, words) :: rest => do
    let value ← ClaimValue.ofWords env words
    addAll env (claims.insert name value) rest

/-- Claims given by words; of two under one name the later counts, at the place of the earlier. -/
def Claims.assemble (env : Environment String) (claims : List (String × List Word)) :
    Except ExpandError Claims :=
  addAll env empty claims

/-- Why claims have no token. -/
inductive EncodeError where
  | unsupportedAlgorithm (algorithm : String)
  | signing (reason : String)
deriving DecidableEq

def EncodeError.message : EncodeError → String
  | unsupportedAlgorithm algorithm => "unsupported JWT algorithm: " ++ algorithm
  | signing reason => "JWT encoding failed: " ++ reason

/-- How claims become a token, given an algorithm and a secret. -/
abbrev ClaimsEncoder := Claims → String → String → Except EncodeError String

namespace Claims

/-- The header of a token without a signature. -/
def unsecuredHeader : Json :=
  .object [("alg", .string "none"), ("typ", .string "JWT")]

/-- A JSON document as one segment of a token. -/
def segment (value : Json) : List Char :=
  Base64.urlSafe.encode false (encodeText value.print)

/-- A header, the claims and an empty signature. -/
def unsecuredToken (claims : Claims) : List Char :=
  segment unsecuredHeader ++ '.' :: (segment claims.toJson ++ ['.'])

/-- Makes tokens without a signature, which only the algorithm `none` asks for, in any case. -/
def unsecured : ClaimsEncoder := fun claims algorithm _secret =>
  if algorithm.toList.map Char.toLower = ['n', 'o', 'n', 'e'] then
    .ok (String.ofList claims.unsecuredToken)
  else .error (.unsupportedAlgorithm algorithm)

end Claims

end RequestScript
