namespace RequestScript

/-- The finite double `mantissa * 2 ^ exponent`, sign apart. -/
structure Binary64 where
  mantissa : Nat
  exponent : Int
deriving DecidableEq

namespace Binary64

def zero : Binary64 := ⟨0, -1074⟩

def twoPow (k : Nat) : Nat := Nat.pow 2 k

def tenPow (k : Nat) : Nat := Nat.pow 10 k

/-- The numerator and denominator of `n * 2 ^ e`. -/
def scaleByTwo (n : Nat) (e : Int) : Nat × Nat :=
  if e < 0 then (n, twoPow (-e).toNat) else (n * twoPow e.toNat, 1)

/-- Twice the remainder against the divisor decides; a tie goes to the even quotient. -/
def roundHalfEven (num den : Nat) : Nat :=
  let q := num / den
  let r := num % den
  if 2 * r > den ∨ (2 * r = den ∧ q % 2 = 1) then q + 1 else q

/-- The exponent at which `num / den` has 53 bits, or the least one of all. -/
def exponentFor (num den : Nat) : Int :=
  let guess : Int := Nat.log2 num - Nat.log2 den - 52
  let small : Bool :=
    if guess < 0 then num * twoPow (-guess).toNat < twoPow 52 * den
    else num < twoPow 52 * (den * twoPow guess.toNat)
  max (if small then guess - 1 else guess) (-1074)

/-- The double nearest to `num / den`, unless that is beyond the greatest one. -/
def ofRatio? (num den : Nat) : Option Binary64 :=
  if num = 0 then some zero
  else
    let e := exponentFor num den
    let m := if e < 0 then roundHalfEven (num * twoPow (-e).toNat) den
      else roundHalfEven num (den * twoPow e.toNat)
    let rounded : Binary64 := if m = twoPow 53 then ⟨twoPow 52, e + 1⟩ else ⟨m, e⟩
    if rounded.exponent > 971 then none else some rounded

/-- The double nearest to a product of doubles. -/
def mul? (x y : Binary64) : Option Binary64 :=
  let (num, den) := scaleByTwo (x.mantissa * y.mantissa) (x.exponent + y.exponent)
  ofRatio? num den

/-- The double nearest to a quotient of doubles. -/
def div? (x y : Binary64) : Option Binary64 :=
  let (num, den) := scaleByTwo x.mantissa (x.exponent - y.exponent)
  ofRatio? num (den * y.mantissa)

/-- The double nearest to a power of ten. -/
def powerOfTen? (k : Nat) : Option Binary64 :=
  ofRatio? (tenPow k) 1

/-- A double divided by a power of ten, in steps of at most `10 ^ 308`. -/
def shiftDown (x : Binary64) (k : Nat) : Option Binary64 :=
  if x.mantissa = 0 then some x
  else if k ≤ 308 then do x.div? (← powerOfTen? k)
  else do
    let smaller ← x.div? (← powerOfTen? 308)
    shiftDown smaller (k - 308)
termination_by k

/-- A decimal read in two roundings: the digits as a double, then times or over a power of ten. -/
def ofDecimal? (digits : Nat) (exponent : Int) : Option Binary64 := do
  let x ← ofRatio? digits 1
  if exponent < 0 then x.shiftDown (-exponent).toNat
  else if x.mantissa = 0 then some x
  else if exponent > 308 then none
  else x.mul? (← powerOfTen? exponent.toNat)

/-- The interval of reals that round to a double, as numerators over one denominator:
lower end, the value, upper end. -/
def interval (x : Binary64) : Nat × Nat × Nat × Nat :=
  let lower := if x.mantissa = twoPow 52 ∧ -1074 < x.exponent then 4 * x.mantissa - 1
    else 4 * x.mantissa - 2
  let (unit, den) := scaleByTwo 1 (x.exponent - 2)
  (lower * unit, 4 * x.mantissa * unit, (4 * x.mantissa + 2) * unit, den)

/-- Whether a decimal `digits * 10 ^ exponent` rounds to a double; the ends of the interval belong
to it when the mantissa is even. -/
def readsBack (x : Binary64) (digits : Nat) (exponent : Int) : Bool :=
  let (low, _, high, den) := x.interval
  let (n, d) := if exponent < 0 then (digits, tenPow (-exponent).toNat)
    else (digits * tenPow exponent.toNat, 1)
  if x.mantissa % 2 = 0 then low * d ≤ n * den && n * den ≤ high * d
  else low * d < n * den && n * den < high * d

/-- The exponent of the leading decimal digit of `num / den`, looked for downwards. -/
def leadingExponent (num den : Nat) : Nat → Int → Int
  | 0, e => e
  | steps + 1, e =>
    let reached := if e < 0 then den ≤ num * tenPow (-e).toNat else den * tenPow e.toNat ≤ num
    if reached then e else leadingExponent num den steps (e - 1)

/-- The decimal of `count` digits next to a double that reads back as it, the nearer of the two
neighbours first. -/
def decimalOfLength? (x : Binary64) (lead : Int) (count : Nat) : Option (Nat × Int) :=
  let (_, num, _, den) := x.interval
  let e := lead - count + 1
  let (n, d) := if e < 0 then (num * tenPow (-e).toNat, den) else (num, den * tenPow e.toNat)
  let below := n / d
  let nearer := roundHalfEven n d
  let farther := if nearer = below then below + 1 else below
  if x.readsBack nearer e then some (nearer, e)
  else if x.readsBack farther e then some (farther, e)
  else none

/-- The shortest decimal `digits * 10 ^ exponent` that reads back as a double. -/
def shortest (x : Binary64) : Nat × Int :=
  let (_, num, _, den) := x.interval
  let lead := leadingExponent num den 650 310
  ((List.range 17).findSome? fun i => x.decimalOfLength? lead (i + 1)).getD (x.mantissa, 0)

/-- The digits of a decimal without zeros at its end, and the exponent of its first digit. -/
def significantDigits (digits : Nat) (exponent : Int) : List Char × Int :=
  let text := Nat.toDigits 10 digits
  let kept := (text.reverse.dropWhile (· == '0')).reverse
  (kept, exponent + text.length - 1)

/-- A double in the fewest digits that read back: positional from `10 ^ -5` up to `10 ^ 16`, with a
point in any case, and scientific outside. -/
def toText (x : Binary64) : List Char :=
  if x.mantissa = 0 then ['0', '.', '0']
  else
    let (digits, exponent) := x.shortest
    let (text, lead) := significantDigits digits exponent
    if -5 ≤ lead ∧ lead < 0 then
      ['0', '.'] ++ List.replicate ((-lead).toNat - 1) '0' ++ text
    else if 0 ≤ lead ∧ lead < 16 then
      let whole := text.take (lead.toNat + 1)
      let fraction := text.drop (lead.toNat + 1)
      whole ++ List.replicate (lead.toNat + 1 - text.length) '0' ++
        '.' :: (if fraction = [] then ['0'] else fraction)
    else
      let fraction := text.drop 1
      let sign := if lead < 0 then '-' else '+'
      let power := Nat.toDigits 10 lead.natAbs
      text.take 1 ++ (if fraction = [] then [] else '.' :: fraction) ++ 'e' :: sign :: power

end Binary64

end RequestScript
