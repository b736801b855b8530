import RequestScript.Text.Utf8

namespace RequestScript

/-- The alphabets of base 64; they differ in their last two digits. -/
inductive Base64 where
  | standard
  | urlSafe
deriving DecidableEq

/-- Why a text is not the standard form of a byte string. -/
inductive Base64Error where
  | badByte (byte : UInt8) (offset : Nat)
  | badLength
  | badLastSymbol (byte : UInt8) (offset : Nat)
  | badPadding
deriving DecidableEq

def Base64Error.message : Base64Error → String
  | badByte byte offset => s!"Invalid byte {byte.toNat}, offset {offset}."
  | badLength => "Encoded text cannot have a 6-bit remainder."
  | badLastSymbol byte offset => s!"Invalid last symbol {byte.toNat}, offset {offset}."
  | badPadding => "Invalid padding"

namespace Base64

def plus : Base64 → Char
  | standard => '+'
  | urlSafe => '-'

def slash : Base64 → Char
  | standard => '/'
  | urlSafe => '_'

/-- The digit of a value below 64. -/
def digit (alphabet : Base64) (n : Nat) : Char :=
  if n < 26 then Char.ofNat (n + 0x41)
  else if n < 52 then Char.ofNat (n + 0x47)
  else if n < 62 then Char.ofNat (n - 4)
  else if n = 62 then alphabet.plus
  else alphabet.slash

/-- The value of a digit. -/
def value? (alphabet : Base64) (c : Char) : Option Nat :=
  if 'A' ≤ c ∧ c ≤ 'Z' then some (c.toNat - 0x41)
  else if 'a' ≤ c ∧ c ≤ 'z' then some (c.toNat - 0x47)
  else if '0' ≤ c ∧ c ≤ '9' then some (c.toNat + 4)
  else if c = alphabet.plus then some 62
  else if c = alphabet.slash then some 63
  else none

/-- What fills up the last group of four digits. -/
def padding (padded : Bool) (n : Nat) : List Char :=
  if padded then List.replicate n '=' else []

/-- Four digits for three bytes; the last one or two bytes have two or three digits. -/
def encode (alphabet : Base64) (padded : Bool) : Bytes → List Char
  | [] => []
  | [a] =>
    alphabet.digit (a.toNat / 4) :: alphabet.digit (a.toNat % 4 * 16) :: padding padded 2
  | [a, b] =>
    alphabet.digit (a.toNat / 4) :: alphabet.digit (a.toNat % 4 * 16 + b.toNat / 16) ::
      alphabet.digit (b.toNat % 16 * 4) :: padding padded 1
  | a :: b :: c :: rest =>
    alphabet.digit (a.toNat / 4) :: alphabet.digit (a.toNat % 4 * 16 + b.toNat / 16) ::
      alphabet.digit (b.toNat % 16 * 4 + c.toNat / 64) :: alphabet.digit (c.toNat % 64) ::
      encode alphabet padded rest

/-- The byte of two digits, of which the second has to leave nothing over. -/
def lastOne? (x y : Nat) : Option Bytes :=
  if y % 16 = 0 then some [UInt8.ofNat (x * 4 + y / 16)] else none

/-- The bytes of three digits, of which the third has to leave nothing over. -/
def lastTwo? (x y z : Nat) : Option Bytes :=
  if z % 4 = 0 then
    some [UInt8.ofNat (x * 4 + y / 16), UInt8.ofNat (y % 16 * 16 + z / 4)]
  else none

/-- The bytes whose padded form a text is. -/
def decode? (alphabet : Base64) : List Char → Option Bytes
  | [] => some []
  | [a, b, '=', '='] => do lastOne? (← alphabet.value? a) (← alphabet.value? b)
  | [a, b, c, '='] => do
    lastTwo? (← alphabet.value? a) (← alphabet.value? b) (← alphabet.value? c)
  | a :: b :: c :: d :: rest => do
    let x ← alphabet.value? a
    let y ← alphabet.value? b
    let z ← alphabet.value? c
    let w ← alphabet.value? d
    let bytes ← decode? alphabet rest
    some (UInt8.ofNat (x * 4 + y / 16) :: UInt8.ofNat (y % 16 * 16 + z / 4) ::
      UInt8.ofNat (z % 4 * 64 + w) :: bytes)
  | _ => none

def isDigit (alphabet : Base64) (byte : UInt8) : Bool :=
  (alphabet.value? (Char.ofNat byte.toNat)).isSome

/-- The first byte that cannot stand at its place. Padding may begin in the last group of eight
bytes alone, which starts at `tail`, and only behind two digits of a group of four; it is blamed
where it begins, at `padded?`. -/
def misplaced? (alphabet : Base64) (tail : Nat) (padded? : Option Nat) (offset : Nat) :
    Bytes → Option Base64Error
  | [] => none
  | byte :: rest =>
    if byte = 0x3d then
      let start := padded?.getD offset
      if offset < tail ∨ offset % 4 < 2 then some (.badByte byte start)
      else misplaced? alphabet tail (some start) (offset + 1) rest
    else match padded? with
      | some start => some (.badByte 0x3d start)
      | none =>
        if alphabet.isDigit byte then misplaced? alphabet tail none (offset + 1) rest
        else some (.badByte byte offset)

/-- What is wrong with a text that is no padded form: its length, else its first misplaced byte,
else its padding, else what its last digit leaves over. -/
def fault (alphabet : Base64) (bytes : Bytes) : Base64Error :=
  if bytes.length % 4 = 1 then
    match bytes.getLast? with
    | some byte =>
      if byte = 0x3d ∨ alphabet.isDigit byte then .badLength
      else .badByte byte (bytes.length - 1)
    | none => .badLength
  else
    match alphabet.misplaced? ((bytes.length - 1) / 8 * 8) none 0 bytes with
    | some error => error
    | none =>
      if bytes.length % 4 ≠ 0 then .badPadding
      else
        let digits := bytes.takeWhile (· != 0x3d)
        .badLastSymbol (digits.getLastD 0) (digits.length - 1)

/-- The bytes whose padded form a text is, or why it is none. -/
def decode (alphabet : Base64) (text : List Char) : Except Base64Error Bytes :=
  match alphabet.decode? text with
  | some bytes => .ok bytes
  | none => .error (alphabet.fault (encodeText text))

end Base64

end RequestScript
