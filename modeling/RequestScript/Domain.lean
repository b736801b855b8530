import RequestScript.Domain.Direction
import RequestScript.Domain.Joining
import RequestScript.Domain.Mapping
import RequestScript.Domain.Punycode

namespace RequestScript.Domain

/-- The parts of a list between the places where `p` holds. -/
def splitBy {α : Type} (p : α → Bool) : List α → List (List α)
  | [] => [[]]
  | a :: as =>
    if p a then [] :: splitBy p as
    else match splitBy p as with
      | [] => [[a]]
      | part :: parts => (a :: part) :: parts

/-- ASCII characters that no host name holds. -/
def isForbidden (n : Nat) : Bool :=
  n ≤ 0x20 || n == 0x7f || "%#/:<>?@[\\]^|".toList.any fun c => c.toNat == n

def asciiMark : List Nat := ['x', 'n', '-', '-'].map Char.toNat

/-- A label as it is read: its Unicode form, and its form in ASCII. -/
structure Label where
  unicode : List Nat
  ascii : List Char

/-- The form of a label holds no mark at its start and each joiner in its place. -/
def isWellFormed (label : List Nat) : Bool :=
  !label.head?.any isMark && joinersFit [] label

/-- A label that comes in its ASCII form: what it encodes has to be a label that would be written
so. -/
def labelOfAscii? (label : List Nat) : Option Label := do
  let decoded ← Punycode.decode ((label.drop asciiMark.length).map Char.ofNat)
  if decoded.any (0x80 ≤ ·) ∧ !asciiMark.isPrefixOf decoded ∧
      mapName? decoded = some decoded ∧ normalize decoded = decoded ∧ isWellFormed decoded then
    some ⟨decoded, label.map Char.ofNat⟩
  else none

/-- A label after mapping and normalisation. -/
def label? (label : List Nat) : Option Label :=
  if label.any isForbidden then none
  else if asciiMark.isPrefixOf label then labelOfAscii? label
  else if label.all (· < 0x80) then some ⟨label, label.map Char.ofNat⟩
  else if isWellFormed label then
    some ⟨label, asciiMark.map Char.ofNat ++ Punycode.encode label⟩
  else none

def labels? : List (List Nat) → Option (List Label)
  | [] => some []
  | label :: rest => do
    let first ← label? label
    let others ← labels? rest
    some (first :: others)

/-- The ASCII form of a domain name, unless it is not a valid one. -/
def toAscii? (name : List Char) : Option (List Char) := do
  let mapped ← mapName? (name.map Char.toNat)
  let labels ← labels? (splitBy (· == 0x2e) (normalize mapped))
  let turned := labels.any fun label => label.unicode.any fun n => (Direction.of n).turnsName
  if turned ∧ !labels.all (fun label => Direction.fits label.unicode) then none
  else some (['.'].intercalate (labels.map Label.ascii))

end RequestScript.Domain
