import RequestScript.Json
import RequestScript.Text.Digits

namespace RequestScript.Json

/-- The parts of a number as it is written. -/
structure Numeral where
  negative : Bool
  whole : List Char
  fraction : List Char
  exponent : Option (Bool × List Char)

namespace Numeral

/-- The greatest integer of 64 bits. -/
def maxWord : Nat := 18446744073709551615

/-- Digits gathered into an integer of 64 bits, and those left over from the first that does not
fit. -/
def gather : Nat → List Char → Nat × List Char
  | n, [] => (n, [])
  | n, c :: cs =>
    if n * 10 + digitValue c ≤ maxWord then gather (n * 10 + digitValue c) cs else (n, c :: cs)

/-- An integer, as long as 64 bits can hold it; negative zero is a double. -/
def integer? (numeral : Numeral) : Option Int :=
  let (n, left) := gather 0 numeral.whole
  if left ≠ [] ∨ numeral.fraction ≠ [] ∨ numeral.exponent.isSome then none
  else if numeral.negative then if 0 < n ∧ n ≤ 9223372036854775808 then some (-n) else none
  else some n

/-- The digits that count, as an integer of 64 bits, and the power of ten that goes with them:
later digits only move the point. -/
def scientific (numeral : Numeral) : Nat × Int :=
  let (whole, wholeLeft) := gather 0 numeral.whole
  let (digits, fractionLeft) := gather whole numeral.fraction
  let taken := numeral.fraction.length - fractionLeft.length
  let power : Int := match numeral.exponent with
    | none => 0
    | some (negative, text) => if negative then -naturalOf text else naturalOf text
  (digits, wholeLeft.length - taken + power)

/-- The number that is written, unless it is too great for a double. -/
def value? (numeral : Numeral) : Option Number :=
  match numeral.integer? with
  | some n => some (.integer n)
  | none =>
    let (digits, power) := numeral.scientific
    (Binary64.ofDecimal? digits power).map (.float numeral.negative)

end Numeral

end RequestScript.Json
