namespace RequestScript.Domain.Punycode

/-- The share of each digit: between 1 and 26, by its distance from the bias. -/
def threshold (k bias : Nat) : Nat :=
  if k ≤ bias + 1 then 1 else if bias + 26 ≤ k then 26 else k - bias

theorem threshold_pos (k bias : Nat) : 0 < threshold k bias := by
  unfold threshold
  split
  · omega
  · split <;> omega

/-- The bias that suits a large difference, and how often it has been cut down. -/
def settle (delta k : Nat) : Nat :=
  if delta > 455 then settle (delta / 35) (k + 36) else k + 36 * delta / (delta + 38)
termination_by delta

/-- The bias after a difference among `count` code points. -/
def adapt (delta count : Nat) (first : Bool) : Nat :=
  let damped := if first then delta / 700 else delta / 2
  settle (damped + damped / count) 0

def digitChar (d : Nat) : Char :=
  if d < 26 then Char.ofNat (0x61 + d) else Char.ofNat (0x30 + d - 26)

def digitValue? (c : Char) : Option Nat :=
  if 'a' ≤ c ∧ c ≤ 'z' then some (c.toNat - 0x61)
  else if 'A' ≤ c ∧ c ≤ 'Z' then some (c.toNat - 0x41)
  else if '0' ≤ c ∧ c ≤ '9' then some (c.toNat - 0x30 + 26)
  else none

/-- A difference as digits of varying share, the least first. -/
def encodeDelta (q k bias : Nat) : List Char :=
  let t := threshold k bias
  if q < t then [digitChar q]
  else digitChar (t + (q - t) % (36 - t)) :: encodeDelta ((q - t) / (36 - t)) (k + 36) bias
termination_by q
decreasing_by
  have ht := threshold_pos k bias
  have hd := Nat.div_le_self (q - threshold k bias) (36 - threshold k bias)
  simp only [t] at *
  omega

structure EncodeState where
  delta : Nat
  bias : Nat
  handled : Nat
  output : List Char

/-- One code point of the text while the occurrences of `m` are written. -/
def encodeStep (m basic : Nat) (state : EncodeState) (c : Nat) : EncodeState :=
  if c < m then { state with delta := state.delta + 1 }
  else if c = m then {
    delta := 0
    bias := adapt state.delta (state.handled + 1) (state.handled == basic)
    handled := state.handled + 1
    output := state.output ++ encodeDelta state.delta 36 state.bias }
  else state

/-- The occurrences of the code points `rest`, in increasing order, after those below `n`. -/
def encodePoints (text : List Nat) (basic : Nat) : Nat → List Nat → EncodeState → EncodeState
  | _, [], state => state
  | n, m :: rest, state =>
    let moved := { state with delta := state.delta + (m - n) * (state.handled + 1) }
    let written := text.foldl (encodeStep m basic) moved
    encodePoints text basic (m + 1) rest { written with delta := written.delta + 1 }

def insertPoint (n : Nat) : List Nat → List Nat
  | [] => [n]
  | m :: rest => if n < m then n :: m :: rest else if n = m then m :: rest else m :: insertPoint n rest

/-- The basic code points of a text in order, then where and which the others are. -/
def encode (text : List Nat) : List Char :=
  let basic := text.filter (· < 0x80)
  let others := (text.filter (0x80 ≤ ·)).foldr insertPoint []
  let head := basic.map Char.ofNat ++ if basic = [] then [] else ['-']
  (encodePoints text basic.length 0x80 others ⟨0, 72, basic.length, head⟩).output

structure DecodeState where
  text : List Nat
  n : Nat
  i : Nat
  bias : Nat

/-- The state after a whole difference has been read up to index `i`. -/
def place? (state : DecodeState) (i : Nat) : Option DecodeState :=
  let count := state.text.length + 1
  let n := state.n + i / count
  let at_ := i % count
  if n.isValidChar then
    some {
      text := state.text.take at_ ++ n :: state.text.drop at_
      n := n
      i := at_ + 1
      bias := adapt (i - state.i) count (state.i == 0) }
  else none

/-- The code points that digits place into a text, `w` and `k` telling the weight of the next. -/
def decodeDigits (state : DecodeState) (i w k : Nat) (fresh : Bool) :
    List Char → Option (List Nat)
  | [] => if fresh then some state.text else none
  | c :: cs => do
    let d ← digitValue? c
    let i' := i + d * w
    let t := threshold k state.bias
    if d < t then
      let next ← place? state i'
      decodeDigits next next.i 1 36 true cs
    else decodeDigits state i' (w * (36 - t)) (k + 36) false cs

/-- The text that a basic part and digits behind the last hyphen stand for. -/
def decode (label : List Char) : Option (List Nat) :=
  let digits := (label.reverse.takeWhile (· != '-')).reverse
  let basic := label.take (label.length - digits.length - 1)
  if basic.all fun c => c.toNat < 0x80 then
    decodeDigits ⟨basic.map Char.toNat, 0x80, 0, 72⟩ 0 1 36 true digits
  else none

end RequestScript.Domain.Punycode
