import RequestScript.Domain.JoiningTable
import RequestScript.Domain.Normalization

namespace RequestScript.Domain

/-- How a code point joins others: left 1, right 2, both 3, through 4, none 0. -/
def joiningType (n : Nat) : Nat :=
  (joiningRows.classOf? n).getD 0

def isMark (n : Nat) : Bool :=
  markRows.coversAny n

/-- A mark that takes the vowel from its letter, behind which joiners may stand. -/
def isVirama (n : Nat) : Bool :=
  combiningClass n == 9

/-- Whether a non-joiner stands between letters that would join: the nearest letter before it joins
to the left, and the nearest after it to the right. -/
def separatesJoining (before after : List Nat) : Bool :=
  let left := (before.dropWhile fun n => joiningType n == 4).head?
  let right := (after.dropWhile fun n => joiningType n == 4).head?
  left.any (fun n => joiningType n == 1 || joiningType n == 3) &&
    right.any (fun n => joiningType n == 2 || joiningType n == 3)

/-- Whether every joiner has its place; the text before comes nearest first. -/
def joinersFit (before : List Nat) : List Nat → Bool
  | [] => true
  | n :: rest =>
    let fits :=
      if n = 0x200c then before.head?.any isVirama || separatesJoining before rest
      else if n = 0x200d then before.head?.any isVirama
      else true
    fits && joinersFit (n :: before) rest

end RequestScript.Domain
