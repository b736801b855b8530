import RequestScript.Instant
import RequestScript.Instant.Calendar
import RequestScript.Text.Digits

namespace RequestScript.Instant

/-- A year of at least four digits; one that is not in 0 to 9999 has a sign. -/
def yearText (year : Int) : List Char :=
  if year < 0 then '-' :: decimal 4 year.natAbs
  else if year ≤ 9999 then decimal 4 year.natAbs
  else '+' :: decimal 4 year.natAbs

/-- A fraction of a second in thousandths, millionths or thousand millionths, whichever is the
first to tell all. -/
def fractionText (nanos : Nat) : List Char :=
  if nanos = 0 then []
  else if nanos % 1000000 = 0 then '.' :: decimal 3 (nanos / 1000000)
  else if nanos % 1000 = 0 then '.' :: decimal 6 (nanos / 1000)
  else '.' :: decimal 9 nanos

def dateText (date : CalendarDate) : List Char :=
  yearText date.year ++ '-' :: (decimal 2 date.month.natAbs ++ '-' :: decimal 2 date.day.natAbs)

/-- A time of day; a leap second is the second 60. -/
def timeText (secondOfDay nanos : Nat) : List Char :=
  decimal 2 (secondOfDay / 3600) ++ ':' :: (decimal 2 (secondOfDay / 60 % 60) ++ ':' ::
    (decimal 2 (secondOfDay % 60 + nanos / 1000000000) ++ fractionText (nanos % 1000000000)))

/-- An instant as date and time of day in universal time. -/
def print (instant : Instant) : List Char :=
  dateText (CalendarDate.ofDays (instant.seconds / 86400)) ++ 'T' ::
    (timeText instant.secondOfDay.toNat instant.nanos ++ ['Z'])

def toText (instant : Instant) : String :=
  String.ofList instant.print

end RequestScript.Instant
