import RequestScript.Instant
import RequestScript.Instant.Calendar
import RequestScript.Text.Character
import RequestScript.Text.Digits

namespace RequestScript.Instant

/-- A number of one or two digits behind white space. -/
def readField (text : List Char) : Option (Nat × List Char) :=
  readNatural 2 (trimStart text)

/-- The text behind a mark, which white space may precede. -/
def readMark (mark : Char) (text : List Char) : Option (List Char) :=
  match trimStart text with
  | c :: rest => if c = mark then some rest else none
  | [] => none

/-- A year: any number of digits behind a sign, or else four at most. -/
def readYear (text : List Char) : Option (Int × List Char) :=
  match trimStart text with
  | '-' :: rest => (readNatural rest.length rest).map fun (n, after) => (-(n : Int), after)
  | '+' :: rest => (readNatural rest.length rest).map fun (n, after) => ((n : Int), after)
  | rest => (readNatural 4 rest).map fun (n, after) => ((n : Int), after)

/-- A date that exists. -/
def readDate (text : List Char) : Option (CalendarDate × List Char) := do
  let (year, text) ← readYear text
  let (month, text) ← readField (← readMark '-' text)
  let (day, text) ← readField (← readMark '-' text)
  let date : CalendarDate := ⟨year, month, day⟩
  if date.exists? then some (date, text) else none

/-- The character between date and time of day. -/
def isDateEnd (c : Char) : Bool :=
  c == 'T' || c == 't' || c == ' '

/-- The nanoseconds of a fraction behind a point, if there is one; digits past the ninth are
skipped. -/
def readFraction : List Char → Option (Nat × List Char)
  | '.' :: text => do
    let (n, after) ← readNatural 9 text
    some (n * Nat.pow 10 (9 - (text.length - after.length)), after.dropWhile Char.isDigit)
  | text => some (0, text)

/-- A time of day, as seconds since midnight and nanoseconds; the second 60 is a leap second. -/
def readTime (text : List Char) : Option ((Nat × Nat) × List Char) := do
  let (hour, text) ← readField text
  let (minute, text) ← readField (← readMark ':' text)
  let (second, text) ← readField (← readMark ':' text)
  let (nanos, text) ← readFraction text
  if hour < 24 ∧ minute < 60 ∧ second ≤ 60 then
    let minutes := (hour * 60 + minute) * 60
    some (if second = 60 then (minutes + 59, 1000000000 + nanos) else (minutes + second, nanos), text)
  else none

/-- What may stand between the hours and the minutes of an offset. -/
def isOffsetGap (c : Char) : Bool :=
  c == ':' || isWhiteSpace c

/-- Two digits each for the hours and the minutes of an offset, as seconds. -/
def readOffsetSize : List Char → Option (Nat × List Char)
  | a :: b :: text =>
    match text.dropWhile isOffsetGap with
    | c :: d :: after =>
      if a.isDigit ∧ b.isDigit ∧ c.isDigit ∧ d.isDigit ∧ naturalOf [a, b] < 24 ∧
          naturalOf [c, d] < 60 then
        some ((naturalOf [a, b] * 60 + naturalOf [c, d]) * 60, after)
      else none
    | _ => none
  | _ => none

/-- The offset from universal time, in seconds. -/
def readOffset (text : List Char) : Option (Int × List Char) :=
  if (text.take 3).map Char.toLower = ['u', 't', 'c'] then some (0, text.drop 3)
  else match text with
    | 'Z' :: after => some (0, after)
    | 'z' :: after => some (0, after)
    | '+' :: rest => (readOffsetSize rest).map fun (n, after) => ((n : Int), after)
    | '-' :: rest => (readOffsetSize rest).map fun (n, after) => (-(n : Int), after)
    | '\u2212' :: rest => (readOffsetSize rest).map fun (n, after) => (-(n : Int), after)
    | _ => none

/-- The instant of a date with a year that has instants, a time of day and an offset. -/
def ofFields? (date : CalendarDate) (time : Nat × Nat) (offset : Int) : Option Instant :=
  if -262143 ≤ date.year ∧ date.year ≤ 262142 then
    ofParts? (date.toDays * 86400 + time.1 - offset) time.2
  else none

/-- The instant that a text gives as date, time of day and offset. -/
def read? (text : List Char) : Option Instant := do
  let (date, text) ← readDate text
  match text with
  | [] => none
  | c :: text =>
    if isDateEnd c then
      let (time, text) ← readTime text
      let (offset, text) ← readOffset (trimStart text)
      if isBlank text then ofFields? date time offset else none
    else none

end RequestScript.Instant
