import RequestScript.Json.Reader

namespace RequestScript.Json.Raw

def string? : Raw → Option String
  | .string value => value
  | _ => none

/-- The strings of an array that holds nothing else. -/
def strings? : Raw → Option (List String)
  | .array items => items.mapM string?
  | _ => none

/-- The value of an integer that is not negative. -/
def natural? : Raw → Option Nat
  | .number (some n) => n.natural?
  | _ => none

/-- The value of a member that is there at most once; there may be none. -/
def soleMember? (members : List (Option String × Raw)) (name : String) : Option (Option Raw) :=
  match members.filter fun member => member.1 == some name with
  | [] => some none
  | [member] => some (some member.2)
  | _ => none

/-- The values of fields, as far as they are there: by name from an object, which may have other
members, or in order from an array, which may not be longer. -/
def fields? (names : List String) : Raw → Option (List (Option Raw))
  | .object members =>
    if members.all fun member => member.1.isSome then names.mapM (soleMember? members) else none
  | .array items =>
    if items.length ≤ names.length then
      some (items.map some ++ List.replicate (names.length - items.length) none)
    else none
  | _ => none

/-- The value of a field that may be left out, but may not be of another kind. -/
def fieldOr {α : Type} (read? : Raw → Option α) (absent : α) : Option Raw → Option α
  | none => some absent
  | some value => read? value

end RequestScript.Json.Raw
