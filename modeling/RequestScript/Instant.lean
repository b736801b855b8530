namespace RequestScript

/-- The seconds between the epoch and the first moment of the year -262143. -/
def firstSecond : Int := -8334601228800

/-- The seconds between the epoch and the last second of the year 262142. -/
def lastSecond : Int := 8210266876799

/-- A moment in time: whole seconds since the start of 1970, and nanoseconds after them. A second is
a thousand million nanoseconds long; those from there on are in a leap second, which counts with the
second before it. -/
structure Instant where
  seconds : Int
  nanos : Nat
  notEarly : firstSecond ≤ seconds
  notLate : seconds ≤ lastSecond
  fits : nanos < 2000000000
deriving DecidableEq

namespace Instant

def ofParts? (seconds : Int) (nanos : Nat) : Option Instant :=
  if h : firstSecond ≤ seconds ∧ seconds ≤ lastSecond ∧ nanos < 2000000000 then
    some ⟨seconds, nanos, h.1, h.2.1, h.2.2⟩
  else none

/-- The whole seconds since midnight. -/
def secondOfDay (instant : Instant) : Int :=
  instant.seconds % 86400

/-- Whether an instant lies in a leap second. -/
def isLeap (instant : Instant) : Bool :=
  1000000000 ≤ instant.nanos

/-- The seconds to add to a difference for a leap second between two times of day. -/
def leapBetween (earlier later : Instant) : Int :=
  if earlier.secondOfDay < later.secondOfDay ∧ earlier.isLeap then 1
  else if later.secondOfDay < earlier.secondOfDay ∧ later.isLeap then -1
  else 0

/-- The nanoseconds from one instant to another; none if the other is not later. -/
def elapsed (earlier later : Instant) : Nat :=
  ((later.seconds - earlier.seconds + leapBetween earlier later) * 1000000000 +
    (later.nanos - earlier.nanos)).toNat

end Instant

end RequestScript
