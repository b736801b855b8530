import RequestScript.Domain.MappingTable

namespace RequestScript.Domain

/-- What replaces a code point of a run of replacements. -/
def shifted? (n : Nat) : List Nat → Option Nat
  | [first, count, stride, target] =>
    if first ≤ n ∧ n < first + count * stride ∧ (n - first) % stride = 0 then
      some (target + (n - first))
    else none
  | _ => none

/-- What a domain name holds in place of a code point: letters are lowered, variants unified and
invisible characters dropped; `none` for those that are not allowed. -/
def mapCodePoint? (n : Nat) : Option (List Nat) :=
  if n < 0x80 then some [if 0x41 ≤ n ∧ n ≤ 0x5a then n + 0x20 else n]
  else if validRows.coversAny n then some [n]
  else if ignoredRows.coversAny n then some []
  else match shiftedRows.findSome? (shifted? n) with
    | some m => some [m]
    | none => expandedRows.after? n

/-- The mapping of a whole name, if all of its code points are allowed. -/
def mapName? : List Nat → Option (List Nat)
  | [] => some []
  | n :: rest => do
    let first ← mapCodePoint? n
    let others ← mapName? rest
    some (first ++ others)

end RequestScript.Domain
