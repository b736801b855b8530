import RequestScript.Domain.DirectionTable

namespace RequestScript.Domain

/-- The classes by which writing from right to left is ordered. -/
inductive Direction where
  | leftToRight
  | rightToLeft
  | arabicLetter
  | arabicNumber
  | europeanNumber
  | europeanSeparator
  | commonSeparator
  | europeanTerminator
  | otherNeutral
  | boundaryNeutral
  | nonspacingMark
  | unsuitable
deriving DecidableEq

namespace Direction

/-- The class with a number of the table. -/
def ofRow : Nat → Direction
  | 1 => rightToLeft
  | 2 => arabicLetter
  | 3 => arabicNumber
  | 4 => europeanNumber
  | 5 => europeanSeparator
  | 6 => commonSeparator
  | 7 => europeanTerminator
  | 8 => otherNeutral
  | 9 => boundaryNeutral
  | 10 => nonspacingMark
  | _ => unsuitable

def of (n : Nat) : Direction :=
  match directionRows.classOf? n with
  | none => leftToRight
  | some row => ofRow row

/-- Such a code point makes the whole name one that is written from right to left. -/
def turnsName (d : Direction) : Bool :=
  d == rightToLeft || d == arabicLetter || d == arabicNumber

/-- Classes that a label of either direction may hold. -/
def isCommon (d : Direction) : Bool :=
  d == europeanNumber || d == europeanSeparator || d == commonSeparator ||
    d == europeanTerminator || d == otherNeutral || d == boundaryNeutral || d == nonspacingMark

def isLeftwards (d : Direction) : Bool :=
  d == rightToLeft || d == arabicLetter

/-- A label from left to right ends in a letter or a number and holds nothing of the other kind. -/
def fitsLeftToRight (label : List Direction) (last : Direction) : Bool :=
  label.all (fun d => d == leftToRight || isCommon d) &&
    (last == leftToRight || last == europeanNumber)

/-- A label from right to left ends in a letter or a number and has numbers of one kind. -/
def fitsRightToLeft (label : List Direction) (last : Direction) : Bool :=
  label.all (fun d => isLeftwards d || d == arabicNumber || isCommon d) &&
    (isLeftwards last || last == europeanNumber || last == arabicNumber) &&
    !(label.contains europeanNumber && label.contains arabicNumber)

/-- The rule for one label of a name that is written from right to left. -/
def fits (label : List Nat) : Bool :=
  let classes := label.map of
  match classes, (classes.reverse.dropWhile (· == nonspacingMark)).head? with
  | first :: _, some last =>
    if first = leftToRight then fitsLeftToRight classes last
    else isLeftwards first && fitsRightToLeft classes last
  | [], _ => true
  | _, none => false

end Direction

end RequestScript.Domain
