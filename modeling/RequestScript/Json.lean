import RequestScript.Binary64

namespace RequestScript

namespace Json

/-- A number as a document gives it: an integer of 64 bits, of either kind, or else a double. -/
inductive Number where
  | integer (value : Int)
  | float (negative : Bool) (magnitude : Binary64)
deriving DecidableEq

namespace Number

def toText : Number → List Char
  | integer value => (toString value).toList
  | float negative magnitude =>
    if negative then '-' :: magnitude.toText else magnitude.toText

/-- The value of a number that is an integer and not negative. -/
def natural? : Number → Option Nat
  | integer (.ofNat n) => some n
  | _ => none

end Number

end Json

/-- A JSON value; the members of an object are in the order in which they are written. -/
inductive Json where
  | null
  | bool (value : Bool)
  | number (value : Json.Number)
  | string (value : String)
  | array (items : List Json)
  | object (members : List (String × Json))

namespace Json

def string? : Json → Option String
  | string value => some value
  | _ => none

def object? : Json → Option (List (String × Json))
  | object members => some members
  | _ => none

def array? : Json → Option (List Json)
  | array items => some items
  | _ => none

/-- The value of a member, if the value is an object that has it. -/
def member? (value : Json) (name : String) : Option Json :=
  match value with
  | object members => members.lookup name
  | _ => none

end Json

end RequestScript
