import RequestScript.Json.Numeral
import RequestScript.Text.Digits

namespace RequestScript.Json

/-- The symbols that a JSON document is made of. A number is `none` when it is too great for a
double, and a string when it is no text: it may hold half a surrogate pair or a stray byte. -/
inductive Symbol where
  | beginArray
  | endArray
  | beginObject
  | endObject
  | comma
  | colon
  | null
  | bool (value : Bool)
  | number (value : Option Number)
  | string (value : Option String)

/-- A document as it is read: its characters, with `none` for a byte that belongs to none. -/
abbrev Source := List (Option Char)

/-- What a string holds before surrogates are paired: code units, with `none` for a stray byte. -/
abbrev Units := List (Option Nat)

/-- The character that a backslash and a letter stand for. -/
def escaped? (c : Char) : Option Char :=
  if c = '"' ∨ c = '\\' ∨ c = '/' then some c
  else if c = 'b' then some '\x08'
  else if c = 'f' then some '\x0c'
  else if c = 'n' then some '\n'
  else if c = 'r' then some '\r'
  else if c = 't' then some '\t'
  else none

/-- The code unit of four hexadecimal digits. -/
def unitOfDigits? (a b c d : Option Char) : Option Nat := do
  let w ← hexValue? (← a)
  let x ← hexValue? (← b)
  let y ← hexValue? (← c)
  let z ← hexValue? (← d)
  some (((w * 16 + x) * 16 + y) * 16 + z)

/-- The units of a string after its opening quotation mark, and what follows the closing one. -/
def readUnits : Source → Option (Units × Source)
  | [] => none
  | none :: rest => (readUnits rest).map fun (units, after) => (none :: units, after)
  | some '"' :: rest => some ([], rest)
  | some '\\' :: some 'u' :: a :: b :: c :: d :: rest => do
    let unit ← unitOfDigits? a b c d
    let (units, after) ← readUnits rest
    some (some unit :: units, after)
  | some '\\' :: some c :: rest => do
    let char ← escaped? c
    let (units, after) ← readUnits rest
    some (some char.toNat :: units, after)
  | some c :: rest =>
    if c.toNat < 0x20 ∨ c = '\\' then none
    else (readUnits rest).map fun (units, after) => (some c.toNat :: units, after)

def isHighSurrogate (n : Nat) : Bool :=
  0xd800 ≤ n && n < 0xdc00

def isLowSurrogate (n : Nat) : Bool :=
  0xdc00 ≤ n && n < 0xe000

/-- The text of code units, in which a high surrogate and a low one make one character. -/
def textOfUnits? : Units → Option (List Char)
  | [] => some []
  | none :: _ => none
  | some n :: rest =>
    if isHighSurrogate n then
      match rest with
      | some m :: rest =>
        if isLowSurrogate m then
          (textOfUnits? rest).map
            (Char.ofNat (0x10000 + (n - 0xd800) * 0x400 + (m - 0xdc00)) :: ·)
        else none
      | _ => none
    else if isLowSurrogate n then none
    else (textOfUnits? rest).map (Char.ofNat n :: ·)

def isDigit? (c : Option Char) : Bool :=
  c.any Char.isDigit

/-- The decimal digits at the start of a document, and what follows them. -/
def splitDigits (source : Source) : List Char × Source :=
  ((source.takeWhile isDigit?).filterMap id, source.dropWhile isDigit?)

/-- The fraction after a point, of at least one digit. -/
def readFraction : Source → Option (List Char × Source)
  | some '.' :: rest =>
    let (digits, after) := splitDigits rest
    if digits = [] then none else some (digits, after)
  | source => some ([], source)

/-- The digits of an exponent, at least one. -/
def readPower (negative : Bool) (source : Source) : Option (Option (Bool × List Char) × Source) :=
  let (digits, after) := splitDigits source
  if digits = [] then none else some (some (negative, digits), after)

def readExponent : Source → Option (Option (Bool × List Char) × Source)
  | some 'e' :: some '-' :: rest | some 'E' :: some '-' :: rest => readPower true rest
  | some 'e' :: some '+' :: rest | some 'E' :: some '+' :: rest => readPower false rest
  | some 'e' :: rest | some 'E' :: rest => readPower false rest
  | source => some (none, source)

/-- A number after its sign; a whole part of several digits does not start with zero. -/
def readNumeral (negative : Bool) (source : Source) : Option (Numeral × Source) := do
  let (whole, afterWhole) := splitDigits source
  if whole = [] ∨ (whole.head? = some '0' ∧ whole.length ≠ 1) then none
  else
    let (fraction, afterFraction) ← readFraction afterWhole
    let (exponent, after) ← readExponent afterFraction
    some (⟨negative, whole, fraction, exponent⟩, after)

/-- The blanks of JSON, which are fewer than white space. -/
def isBlankChar (c : Option Char) : Bool :=
  c == some ' ' || c == some '\t' || c == some '\n' || c == some '\r'

def readNumber (negative : Bool) (source : Source) : Option (Symbol × Source) :=
  (readNumeral negative source).map fun (numeral, after) => (.number numeral.value?, after)

/-- The symbol at the start of a document that does not start with a blank. -/
def Symbol.read? : Source → Option (Symbol × Source)
  | some '[' :: rest => some (.beginArray, rest)
  | some ']' :: rest => some (.endArray, rest)
  | some '{' :: rest => some (.beginObject, rest)
  | some '}' :: rest => some (.endObject, rest)
  | some ',' :: rest => some (.comma, rest)
  | some ':' :: rest => some (.colon, rest)
  | some 'n' :: some 'u' :: some 'l' :: some 'l' :: rest => some (.null, rest)
  | some 't' :: some 'r' :: some 'u' :: some 'e' :: rest => some (.bool true, rest)
  | some 'f' :: some 'a' :: some 'l' :: some 's' :: some 'e' :: rest => some (.bool false, rest)
  | some '"' :: rest =>
    (readUnits rest).map fun (units, after) =>
      (.string ((textOfUnits? units).map String.ofList), after)
  | some '-' :: rest => readNumber true rest
  | source => readNumber false source

end RequestScript.Json
