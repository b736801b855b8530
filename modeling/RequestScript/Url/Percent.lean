import RequestScript.Text.Digits

namespace RequestScript.Url

/-- A byte as a percent sign and two digits in upper case. -/
def percentEncodeByte (b : UInt8) : List Char :=
  ['%', (hexDigit (b.toNat / 16)).toUpper, (hexDigit (b.toNat % 16)).toUpper]

/-- A text in which the characters of a set and all beyond ASCII are encoded. -/
def percentEncode (inSet : Char → Bool) (text : List Char) : List Char :=
  text.flatMap fun c =>
    if 0x80 ≤ c.toNat || inSet c then (encodeChar c).flatMap percentEncodeByte else [c]

def isControl (c : Char) : Bool :=
  c.toNat < 0x20 || c.toNat == 0x7f

/-- What is encoded in a fragment. -/
def inFragmentSet (c : Char) : Bool :=
  isControl c || c == ' ' || c == '\x22' || c == '<' || c == '>' || c == '\x60'

/-- What is encoded in a path. -/
def inPathSet (c : Char) : Bool :=
  inFragmentSet c || c == '#' || c == '?' || c == '{' || c == '}'

/-- What is encoded in a user name or password. -/
def inUserSet (c : Char) : Bool :=
  inPathSet c || c == '/' || c == ':' || c == ';' || c == '=' || c == '@' || c == '[' ||
    c == '\\' || c == ']' || c == '^' || c == '|'

/-- What is encoded in a query; in that of a special scheme the apostrophe too. -/
def inQuerySet (special : Bool) (c : Char) : Bool :=
  isControl c || c == ' ' || c == '\x22' || c == '#' || c == '<' || c == '>' ||
    (special && c == '\x27')

/-- The bytes of a text in which percent signs with two digits stand for bytes. -/
def percentDecode : List Char → Bytes
  | [] => []
  | '%' :: a :: b :: rest =>
    match hexValue? a, hexValue? b with
    | some high, some low => UInt8.ofNat (high * 16 + low) :: percentDecode rest
    | _, _ => 0x25 :: percentDecode (a :: b :: rest)
  | c :: rest => encodeChar c ++ percentDecode rest

end RequestScript.Url
