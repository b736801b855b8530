import RequestScript.Domain.NormalizationTable

namespace RequestScript.Domain

/-- The leading and vowel parts of a Hangul syllable, and the trailing part if it has one. -/
def decomposeHangul (n : Nat) : List Nat :=
  let s := n - 0xac00
  let lead := 0x1100 + s / 588
  let vowel := 0x1161 + s % 588 / 28
  if s % 28 = 0 then [lead, vowel] else [lead, vowel, 0x11a7 + s % 28]

/-- The full canonical decomposition of a code point. -/
def decompose (n : Nat) : List Nat :=
  if n < 0x80 then [n]
  else if 0xac00 ≤ n ∧ n ≤ 0xd7a3 then decomposeHangul n
  else (decompositionRows.after? n).getD [n]

def combiningClass (n : Nat) : Nat :=
  if n < 0x300 then 0 else (combiningRows.classOf? n).getD 0

/-- A mark put in front of ordered text, behind those marks of it that bind more closely. -/
def insertMark (n : Nat) : List Nat → List Nat
  | [] => [n]
  | m :: rest =>
    if combiningClass m ≠ 0 ∧ combiningClass m < combiningClass n then m :: insertMark n rest
    else n :: m :: rest

/-- Marks in the order of their combining classes, all else where it stands. -/
def orderMarks : List Nat → List Nat
  | [] => []
  | n :: rest =>
    if combiningClass n = 0 then n :: orderMarks rest else insertMark n (orderMarks rest)

/-- The code point that a pair composes to. -/
def composePair? (a b : Nat) : Option Nat :=
  if 0x1100 ≤ a ∧ a < 0x1113 ∧ 0x1161 ≤ b ∧ b < 0x1176 then
    some (0xac00 + ((a - 0x1100) * 21 + (b - 0x1161)) * 28)
  else if 0xac00 ≤ a ∧ a < 0xd7a4 ∧ (a - 0xac00) % 28 = 0 ∧ 0x11a7 < b ∧ b < 0x11c3 then
    some (a + (b - 0x11a7))
  else (compositionRows.find? fun row => row.head? == some a && row[1]? == some b).bind (·[2]?)

/-- Composition behind a starter, with the marks that have not joined it, latest first. -/
def composeFrom (starter : Nat) (marks : List Nat) : List Nat → List Nat
  | [] => starter :: marks.reverse
  | n :: rest =>
    let blocked := marks.head?.any fun m => combiningClass n ≤ combiningClass m
    match if blocked then none else composePair? starter n with
    | some composed => composeFrom composed marks rest
    | none =>
      if combiningClass n = 0 then (starter :: marks.reverse) ++ composeFrom n [] rest
      else composeFrom starter (n :: marks) rest

/-- Composition of ordered text; marks before the first starter stay as they are. -/
def compose : List Nat → List Nat
  | [] => []
  | n :: rest => if combiningClass n = 0 then composeFrom n [] rest else n :: compose rest

/-- The canonical composition of a text. -/
def normalize (text : List Nat) : List Nat :=
  compose (orderMarks (text.flatMap decompose))

end RequestScript.Domain
