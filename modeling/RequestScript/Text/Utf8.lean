namespace RequestScript

abbrev Bytes := List UInt8

/-- The bytes of one character in UTF-8. -/
def encodeChar (c : Char) : Bytes :=
  let n := c.toNat
  let lead (mark unit : Nat) : UInt8 := UInt8.ofNat (mark + n / unit)
  let tail (unit : Nat) : UInt8 := UInt8.ofNat (0x80 + n / unit % 0x40)
  if n < 0x80 then [UInt8.ofNat n]
  else if n < 0x800 then [lead 0xc0 0x40, tail 1]
  else if n < 0x10000 then [lead 0xe0 0x1000, tail 0x40, tail 1]
  else [lead 0xf0 0x40000, tail 0x1000, tail 0x40, tail 1]

/-- A text in UTF-8. -/
def encodeText (text : List Char) : Bytes :=
  text.flatMap encodeChar

def utf8Bytes (text : String) : Bytes :=
  encodeText text.toList

/-- The payload of a continuation byte. -/
def continuation? (b : UInt8) : Option Nat :=
  if 0x80 ≤ b ∧ b < 0xc0 then some (b.toNat - 0x80) else none

/-- The character of a code point, provided it needs a sequence of the length it came in. -/
def charFrom? (low n : Nat) : Option Char :=
  if low ≤ n ∧ n.isValidChar then some (Char.ofNat n) else none

def twoByteChar? (a b : UInt8) : Option Char := do
  let y ← continuation? b
  if 0xc0 ≤ a ∧ a < 0xe0 then charFrom? 0x80 ((a.toNat - 0xc0) * 0x40 + y) else none

def threeByteChar? (a b c : UInt8) : Option Char := do
  let y ← continuation? b
  let z ← continuation? c
  if 0xe0 ≤ a ∧ a < 0xf0 then charFrom? 0x800 ((a.toNat - 0xe0) * 0x1000 + y * 0x40 + z) else none

def fourByteChar? (a b c d : UInt8) : Option Char := do
  let y ← continuation? b
  let z ← continuation? c
  let w ← continuation? d
  if 0xf0 ≤ a ∧ a < 0xf8 then
    charFrom? 0x10000 ((a.toNat - 0xf0) * 0x40000 + y * 0x1000 + z * 0x40 + w)
  else none

/-- The characters of a byte string, with `none` for each byte that belongs to no character. -/
def decodeBytes : Bytes → List (Option Char)
  | [] => []
  | a :: r₁ =>
    if a < 0x80 then some (Char.ofNat a.toNat) :: decodeBytes r₁
    else match r₁ with
      | [] => [none]
      | b :: r₂ =>
        match twoByteChar? a b with
        | some char => some char :: decodeBytes r₂
        | none =>
          match r₂ with
          | [] => none :: decodeBytes (b :: [])
          | c :: r₃ =>
            match threeByteChar? a b c with
            | some char => some char :: decodeBytes r₃
            | none =>
              match r₃ with
              | [] => none :: decodeBytes (b :: c :: [])
              | d :: r₄ =>
                match fourByteChar? a b c d with
                | some char => some char :: decodeBytes r₄
                | none => none :: decodeBytes (b :: c :: d :: r₄)

/-- The characters of a list in which none is missing. -/
def allChars? : List (Option Char) → Option (List Char)
  | [] => some []
  | none :: _ => none
  | some c :: rest => (allChars? rest).map (c :: ·)

/-- The text that a byte string encodes, if all of it is UTF-8. -/
def decodeText? (bytes : Bytes) : Option String :=
  (allChars? (decodeBytes bytes)).map String.ofList

end RequestScript
