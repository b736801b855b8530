import RequestScript.Environment
import RequestScript.Text.Digits
import RequestScript.Text.Quoted
import RequestScript.Url.Parser

namespace RequestScript

/-- The spellings of true and false. -/
def parseBool? (text : String) : Option Bool :=
  if ["1", "t", "T", "TRUE", "true", "True"].contains text then some true
  else if ["0", "f", "F", "FALSE", "false", "False"].contains text then some false
  else none

/-- The value of one or more decimal digits. -/
def naturalOfDigits? (digits : List Char) : Option Nat :=
  if digits ≠ [] ∧ digits.all Char.isDigit then
    some (naturalOf digits)
  else none

/-- The integers of 64 bits. -/
def inWordRange (n : Int) : Bool :=
  -9223372036854775808 ≤ n && n ≤ 9223372036854775807

/-- An integer of 64 bits in decimal digits, with at most one sign. -/
def parseInt? (text : List Char) : Option Int := do
  let value : Int ← match text with
    | '-' :: digits => (naturalOfDigits? digits).map fun n => -(n : Int)
    | '+' :: digits => (naturalOfDigits? digits).map fun n => (n : Int)
    | digits => (naturalOfDigits? digits).map fun n => (n : Int)
  if inWordRange value then some value else none

/-- A text with places that are filled from an environment. -/
inductive Word where
  | literal (text : String)
  | reference (name : String)
  | compound (parts : List Word)
deriving Inhabited

/-- Why a word has no value of the wanted type. -/
inductive ExpandError where
  | undefined (error : UndefinedName)
  | notBool (text : String)
  | notInt (text : String)
  | notUrl (text : String) (reason : UrlError)
deriving DecidableEq

def ExpandError.message : ExpandError → String
  | undefined error => error.message
  | notBool text => "invalid boolean: " ++ quote text
  | notInt text => "invalid integer: " ++ quote text
  | notUrl text reason => "invalid URL " ++ quote text ++ ": " ++ reason.message

/-- The truth value that a text spells. -/
def coerceBool (text : String) : Except ExpandError Bool :=
  match parseBool? text with
  | some value => .ok value
  | none => .error (.notBool text)

/-- The integer that a text spells. -/
def coerceInt (text : String) : Except ExpandError Int :=
  match parseInt? text.toList with
  | some value => .ok value
  | none => .error (.notInt text)

/-- The absolute URL that a text spells. -/
def coerceUrl (text : String) : Except ExpandError Url :=
  match Url.parse text.toList with
  | .ok url => .ok url
  | .error reason => .error (.notUrl text reason)

namespace Word

mutual

/-- The text of a word; the first name that is not defined makes it fail. -/
def expand (env : Environment String) : Word → Except ExpandError String
  | literal text => .ok text
  | reference name =>
    match env.resolve name with
    | .ok value => .ok value
    | .error error => .error (.undefined error)
  | compound parts => expandAll env parts

/-- The texts of words one after the other. -/
def expandAll (env : Environment String) : List Word → Except ExpandError String
  | [] => .ok ""
  | part :: parts => do
    let first ← expand env part
    let rest ← expandAll env parts
    return first ++ rest

end

def expandBool (word : Word) (env : Environment String) : Except ExpandError Bool := do
  coerceBool (← word.expand env)

def expandInt (word : Word) (env : Environment String) : Except ExpandError Int := do
  coerceInt (← word.expand env)

def expandUrl (word : Word) (env : Environment String) : Except ExpandError Url := do
  coerceUrl (← word.expand env)

mutual

/-- The names that a word refers to, in the order of their places. -/
def names : Word → List String
  | literal _ => []
  | reference name => [name]
  | compound parts => namesOfAll parts

def namesOfAll : List Word → List String
  | [] => []
  | part :: parts => names part ++ namesOfAll parts

end

mutual

/-- A word as source text, its names in braces. -/
def display : Word → List Char
  | literal text => text.toList
  | reference name => '$' :: '{' :: (name.toList ++ ['}'])
  | compound parts => displayAll parts

def displayAll : List Word → List Char
  | [] => []
  | part :: parts => display part ++ displayAll parts

end

def toText (word : Word) : String :=
  String.ofList word.display

end Word

end RequestScript
