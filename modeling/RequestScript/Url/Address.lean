import RequestScript.Domain
import RequestScript.Text.Digits

namespace RequestScript.Url

/-- The value of digits in a base, if each is one of the base. -/
def valueInBase? (base : Nat) (digits : List Char) : Option Nat :=
  digits.foldlM (fun n c => do
    let d ← hexValue? c
    if d < base then some (n * base + d) else none) 0

/-- A number of an address, in base ten, eight after a zero, or sixteen after `0x`. -/
def addressNumber? (text : List Char) : Option Nat :=
  match text with
  | [] => none
  | '0' :: 'x' :: digits | '0' :: 'X' :: digits => valueInBase? 16 digits
  | '0' :: d :: digits => valueInBase? 8 (d :: digits)
  | digits => valueInBase? 10 digits

/-- The parts of a name between its points, without an empty one at the end. -/
def nameParts (name : List Char) : List (List Char) :=
  let parts := Domain.splitBy (· == '.') name
  if parts.getLast? = some [] then parts.dropLast else parts

/-- Whether the last part of a name is a number, so that the name has to be an address. -/
def endsInNumber (name : List Char) : Bool :=
  match (nameParts name).getLast? with
  | none => false
  | some part => (part ≠ [] && part.all Char.isDigit) || (addressNumber? part).isSome

/-- The address of four bytes whose last number fills the bytes that the others leave. -/
def ipv4? (name : List Char) : Option Nat := do
  let numbers ← (nameParts name).mapM addressNumber?
  let last ← numbers.getLast?
  let others := numbers.dropLast
  let room := Nat.pow 256 (4 - others.length)
  if others.length < 4 ∧ last < room ∧ others.all (· < 256) then
    some (others.foldl (fun n other => n * 256 + other) 0 * room + last)
  else none

def ipv4Text (address : Nat) : List Char :=
  let part (i : Nat) : List Char := Nat.toDigits 10 (address / Nat.pow 256 i % 256)
  part 3 ++ '.' :: (part 2 ++ '.' :: (part 1 ++ '.' :: part 0))

/-- A decimal part of an address at the end of another: at most 255 and without leading zeros. -/
def embeddedPart? (text : List Char) : Option Nat := do
  if text = [] ∨ (text.head? = some '0' ∧ text.length ≠ 1) then none
  else
    let n ← valueInBase? 10 text
    if n < 256 then some n else none

/-- The two pieces of an address of four bytes. -/
def embeddedPieces? (text : List Char) : Option (List Nat) := do
  match ← (Domain.splitBy (· == '.') text).mapM embeddedPart? with
  | [a, b, c, d] => some [a * 256 + b, c * 256 + d]
  | _ => none

/-- A piece of at most four digits. -/
def piece? (text : List Char) : Option Nat :=
  if text = [] ∨ 4 < text.length then none else valueInBase? 16 text

/-- The pieces between colons; the last part of an address may be one of four bytes. -/
def pieces? : List (List Char) → Option (List Nat)
  | [] => some []
  | [last] => if last.contains '.' then embeddedPieces? last else (piece? last).map ([·])
  | part :: parts => do
    let first ← piece? part
    let others ← pieces? parts
    some (first :: others)

/-- The pieces of a text that may be empty. -/
def sidePieces? (text : List Char) : Option (List Nat) :=
  if text = [] then some [] else pieces? (Domain.splitBy (· == ':') text)

/-- The two sides of the first double colon. -/
def splitDoubleColon : List Char → Option (List Char × List Char)
  | [] => none
  | ':' :: ':' :: rest => some ([], rest)
  | c :: rest => (splitDoubleColon rest).map fun (before, after) => (c :: before, after)

/-- The eight pieces of an address; a double colon stands for one or more pieces of zero. -/
def ipv6? (text : List Char) : Option (List Nat) := do
  match splitDoubleColon text with
  | none =>
    let pieces ← sidePieces? text
    if pieces.length = 8 then some pieces else none
  | some (before, after) =>
    if before.contains '.' then none
    else
      let front ← sidePieces? before
      let back ← sidePieces? after
      let count := front.length + back.length
      if count < 8 then some (front ++ List.replicate (8 - count) 0 ++ back) else none

/-- The number of zeros at the start of a list. -/
def leadingZeros (pieces : List Nat) : Nat :=
  (pieces.takeWhile (· == 0)).length

/-- Where the first of the longest runs of zeros starts, and how long it is. -/
def longestZeros (pieces : List Nat) : Nat × Nat :=
  (List.range pieces.length).foldl (fun best i =>
    let length := leadingZeros (pieces.drop i)
    if best.2 < length then (i, length) else best) (0, 0)

def piecesText (pieces : List Nat) : List Char :=
  [':'].intercalate (pieces.map (Nat.toDigits 16))

/-- The address between brackets, its longest run of two or more zeros as a double colon. -/
def ipv6Text (pieces : List Nat) : List Char :=
  let (start, length) := longestZeros pieces
  let body :=
    if length < 2 then piecesText pieces
    else piecesText (pieces.take start) ++ ':' :: ':' :: piecesText (pieces.drop (start + length))
  '[' :: (body ++ [']'])

end RequestScript.Url
