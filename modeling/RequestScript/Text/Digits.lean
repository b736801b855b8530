import RequestScript.Text.Utf8

namespace RequestScript

def digitChar (n : Nat) : Char :=
  Char.ofNat (n + 0x30)

def digitValue (c : Char) : Nat :=
  c.toNat - 0x30

/-- The decimal digits of a number, with zeros before them up to a width. -/
def decimal (width n : Nat) : List Char :=
  if n < 10 then List.replicate (width - 1) '0' ++ [digitChar n]
  else decimal (width - 1) (n / 10) ++ [digitChar (n % 10)]

/-- The number that decimal digits stand for. -/
def naturalOf (digits : List Char) : Nat :=
  digits.foldl (fun n c => n * 10 + digitValue c) 0

/-- The number at the start of a text, of one digit or more and `most` at most, and the text after
it. -/
def readNatural (most : Nat) (text : List Char) : Option (Nat × List Char) :=
  match (text.takeWhile Char.isDigit).take most with
  | [] => none
  | digits => some (naturalOf digits, text.drop digits.length)

/-- The digit of a value below sixteen, in lower case. -/
def hexDigit (n : Nat) : Char :=
  if n < 10 then Char.ofNat (0x30 + n) else Char.ofNat (0x57 + n)

/-- The value of a hexadecimal digit of either case. -/
def hexValue? (c : Char) : Option Nat :=
  if '0' ≤ c ∧ c ≤ '9' then some (c.toNat - 0x30)
  else if 'a' ≤ c ∧ c ≤ 'f' then some (c.toNat - 0x57)
  else if 'A' ≤ c ∧ c ≤ 'F' then some (c.toNat - 0x37)
  else none

/-- Two digits for each byte. -/
def hexOfBytes (bytes : Bytes) : List Char :=
  bytes.flatMap fun b => [hexDigit (b.toNat / 16), hexDigit (b.toNat % 16)]

/-- The bytes that pairs of digits stand for. -/
def bytesOfHex? : List Char → Option Bytes
  | [] => some []
  | [_] => none
  | a :: b :: rest => do
    let high ← hexValue? a
    let low ← hexValue? b
    let bytes ← bytesOfHex? rest
    some (UInt8.ofNat (high * 16 + low) :: bytes)

/-- The rows of a table of numbers. -/
abbrev NumberRows := List (List Nat)

namespace NumberRows

/-- Hexadecimal numbers, separated by points within a row and by blanks between rows; the last row
and number come first while reading. -/
def readRows : List Char → List Nat → Nat → NumberRows
  | [], row, n => [(n :: row).reverse]
  | c :: cs, row, n =>
    if c = ' ' then (n :: row).reverse :: readRows cs [] 0
    else if c = '.' then readRows cs (n :: row) 0
    else readRows cs row (n * 16 + (hexValue? c).getD 0)

/-- The rows of lines between which blanks stand. -/
def ofLines (lines : List String) : NumberRows :=
  readRows (String.intercalate " " lines).toList [] 0

/-- Whether a row `low, high, ...` covers a number. -/
def covers (n : Nat) : List Nat → Bool
  | low :: high :: _ => low ≤ n && n ≤ high
  | _ => false

/-- Whether some row `low, high` covers a number. -/
def coversAny (rows : NumberRows) (n : Nat) : Bool :=
  rows.any (covers n)

/-- The third number of the first row that covers a number. -/
def classOf? (rows : NumberRows) (n : Nat) : Option Nat :=
  (rows.find? (covers n)).bind (·[2]?)

/-- What stands after a number in the first row that starts with it. -/
def after? (rows : NumberRows) (n : Nat) : Option (List Nat) :=
  (rows.find? fun row => row.head? == some n).map List.tail

end NumberRows

end RequestScript
