import RequestScript.Base64
import RequestScript.Proofs.Text.Utf8

namespace RequestScript.Base64

theorem value?_digit (alphabet : Base64) {n : Nat} (h : n < 64) :
    alphabet.value? (alphabet.digit n) = some n := by
  have all : ∀ m < 64, alphabet.value? (alphabet.digit m) = some m := by
    cases alphabet <;> decide
  exact all n h

theorem digit_ne_padding (alphabet : Base64) {n : Nat} (h : n < 64) :
    alphabet.digit n ≠ '=' := by
  have all : ∀ m < 64, alphabet.digit m ≠ '=' := by
    cases alphabet <;> decide
  exact all n h

theorem decode?_group {alphabet : Base64} {a b c d : Char} {x y z w : Nat} (hd : d ≠ '=')
    (hx : alphabet.value? a = some x) (hy : alphabet.value? b = some y)
    (hz : alphabet.value? c = some z) (hw : alphabet.value? d = some w) (rest : List Char) :
    alphabet.decode? (a :: b :: c :: d :: rest) =
      (alphabet.decode? rest).map fun bytes =>
        UInt8.ofNat (x * 4 + y / 16) :: UInt8.ofNat (y % 16 * 16 + z / 4) ::
          UInt8.ofNat (z % 4 * 64 + w) :: bytes := by
  rw [decode?.eq_def]
  split
  next h => cases h
  next h => simp only [List.cons.injEq] at h; exact absurd h.2.2.2.1 hd
  next h => simp only [List.cons.injEq] at h; exact absurd h.2.2.2.1 hd
  next a' b' c' d' rest' h₁ h₂ h =>
    simp only [List.cons.injEq] at h
    obtain ⟨rfl, rfl, rfl, rfl, rfl⟩ := h
    simp only [hx, hy, hz, hw, Option.bind_eq_bind, Option.bind_some]
    cases alphabet.decode? rest <;> rfl
  next h => exact absurd rfl (h a b c d rest)

theorem bytes_of_digits (a b c : UInt8) :
    UInt8.ofNat (a.toNat / 4 * 4 + (a.toNat % 4 * 16 + b.toNat / 16) / 16) = a ∧
    UInt8.ofNat ((a.toNat % 4 * 16 + b.toNat / 16) % 16 * 16 +
      (b.toNat % 16 * 4 + c.toNat / 64) / 4) = b ∧
    UInt8.ofNat ((b.toNat % 16 * 4 + c.toNat / 64) % 4 * 64 + c.toNat % 64) = c := by
  have hb := b.toNat_lt
  have hc := c.toNat_lt
  have h₁ : a.toNat / 4 * 4 + (a.toNat % 4 * 16 + b.toNat / 16) / 16 = a.toNat := by omega
  have h₂ : (a.toNat % 4 * 16 + b.toNat / 16) % 16 * 16 +
      (b.toNat % 16 * 4 + c.toNat / 64) / 4 = b.toNat := by omega
  have h₃ : (b.toNat % 16 * 4 + c.toNat / 64) % 4 * 64 + c.toNat % 64 = c.toNat := by omega
  rw [h₁, h₂, h₃, UInt8.ofNat_toNat, UInt8.ofNat_toNat, UInt8.ofNat_toNat]
  exact ⟨rfl, rfl, rfl⟩

/-- Four digits are read as the three bytes that they have been written for. -/
theorem decode?_digits (alphabet : Base64) (a b c : UInt8) (rest : List Char) :
    alphabet.decode? (alphabet.digit (a.toNat / 4) ::
      alphabet.digit (a.toNat % 4 * 16 + b.toNat / 16) ::
      alphabet.digit (b.toNat % 16 * 4 + c.toNat / 64) :: alphabet.digit (c.toNat % 64) :: rest) =
      (alphabet.decode? rest).map fun bytes => a :: b :: c :: bytes := by
  have ha := a.toNat_lt
  have hb := b.toNat_lt
  have hc := c.toNat_lt
  obtain ⟨h₁, h₂, h₃⟩ := bytes_of_digits a b c
  rw [decode?_group (digit_ne_padding alphabet (by omega)) (value?_digit alphabet (by omega))
    (value?_digit alphabet (by omega)) (value?_digit alphabet (by omega))
    (value?_digit alphabet (by omega)), h₁, h₂, h₃]

theorem lastOne?_digits (a : UInt8) : lastOne? (a.toNat / 4) (a.toNat % 4 * 16) = some [a] := by
  have h₁ : a.toNat % 4 * 16 % 16 = 0 := by omega
  have h₂ : a.toNat / 4 * 4 + a.toNat % 4 * 16 / 16 = a.toNat := by omega
  rw [lastOne?, if_pos h₁, h₂, UInt8.ofNat_toNat]

theorem lastTwo?_digits (a b : UInt8) :
    lastTwo? (a.toNat / 4) (a.toNat % 4 * 16 + b.toNat / 16) (b.toNat % 16 * 4) = some [a, b] := by
  have hb := b.toNat_lt
  have h₁ : b.toNat % 16 * 4 % 4 = 0 := by omega
  have h₂ : a.toNat / 4 * 4 + (a.toNat % 4 * 16 + b.toNat / 16) / 16 = a.toNat := by omega
  have h₃ : (a.toNat % 4 * 16 + b.toNat / 16) % 16 * 16 + b.toNat % 16 * 4 / 4 = b.toNat := by
    omega
  rw [lastTwo?, if_pos h₁, h₂, h₃, UInt8.ofNat_toNat, UInt8.ofNat_toNat]

theorem decode?_two (alphabet : Base64) {a b : Char} {x y : Nat} (hx : alphabet.value? a = some x)
    (hy : alphabet.value? b = some y) : alphabet.decode? [a, b, '=', '='] = lastOne? x y := by
  rw [decode?, hx, hy]
  rfl

theorem decode?_three (alphabet : Base64) {a b c : Char} {x y z : Nat} (hc : c ≠ '=')
    (hx : alphabet.value? a = some x) (hy : alphabet.value? b = some y)
    (hz : alphabet.value? c = some z) : alphabet.decode? [a, b, c, '='] = lastTwo? x y z := by
  rw [decode?.eq_def]
  split
  next h => cases h
  next h => simp only [List.cons.injEq] at h; exact absurd h.2.2.1 hc
  next a' b' c' _ h =>
    simp only [List.cons.injEq] at h
    obtain ⟨rfl, rfl, rfl, _⟩ := h
    rw [hx, hy, hz]
    rfl
  next a' b' c' d' rest' _ h₂ h =>
    simp only [List.cons.injEq] at h
    exact absurd h.2.2.2.2.symm (h₂ h.2.2.2.1.symm)
  next h => exact absurd rfl (h a b c '=' [])

/-- Bytes that have been written with padding are read back. -/
theorem decode?_encode (alphabet : Base64) (bytes : Bytes) :
    alphabet.decode? (alphabet.encode true bytes) = some bytes := by
  fun_induction encode alphabet true bytes with
  | case1 => rfl
  | case2 a =>
    have ha := a.toNat_lt
    rw [padding, if_pos rfl]
    exact (decode?_two alphabet (value?_digit alphabet (by omega))
      (value?_digit alphabet (by omega))).trans (lastOne?_digits a)
  | case3 a b =>
    have ha := a.toNat_lt
    have hb := b.toNat_lt
    rw [padding, if_pos rfl]
    exact (decode?_three alphabet (digit_ne_padding alphabet (by omega))
      (value?_digit alphabet (by omega)) (value?_digit alphabet (by omega))
      (value?_digit alphabet (by omega))).trans (lastTwo?_digits a b)
  | case4 a b c rest ih => rw [decode?_digits, ih, Option.map_some]

theorem encode_injective {alphabet : Base64} {a b : Bytes}
    (h : alphabet.encode true a = alphabet.encode true b) : a = b := by
  have hd := congrArg alphabet.decode? h
  rw [decode?_encode, decode?_encode] at hd
  exact Option.some.inj hd

/-- Padding fills up the last group of digits and stands behind all of them. -/
theorem encode_padded (alphabet : Base64) (bytes : Bytes) : alphabet.encode true bytes =
    alphabet.encode false bytes ++ List.replicate ((3 - bytes.length % 3) % 3) '=' := by
  fun_induction encode alphabet true bytes with
  | case1 => rfl
  | case2 a => rfl
  | case3 a b => rfl
  | case4 a b c rest ih =>
    have hl : (a :: b :: c :: rest).length % 3 = rest.length % 3 := by
      simp only [List.length_cons]
      omega
    rw [ih, hl, encode]
    rfl

theorem length_encode_padded (alphabet : Base64) (bytes : Bytes) :
    (alphabet.encode true bytes).length = (bytes.length + 2) / 3 * 4 := by
  fun_induction encode alphabet true bytes with
  | case1 => rfl
  | case2 a => simp [padding]
  | case3 a b => simp [padding]
  | case4 a b c rest ih =>
    simp only [List.length_cons, ih]
    omega

/-- The bytes whose form without padding a text is. -/
def decodeUnpadded? (alphabet : Base64) : List Char → Option Bytes
  | [] => some []
  | [a, b] => do lastOne? (← alphabet.value? a) (← alphabet.value? b)
  | [a, b, c] => do
    lastTwo? (← alphabet.value? a) (← alphabet.value? b) (← alphabet.value? c)
  | a :: b :: c :: d :: rest => do
    let x ← alphabet.value? a
    let y ← alphabet.value? b
    let z ← alphabet.value? c
    let w ← alphabet.value? d
    let bytes ← decodeUnpadded? alphabet rest
    some (UInt8.ofNat (x * 4 + y / 16) :: UInt8.ofNat (y % 16 * 16 + z / 4) ::
      UInt8.ofNat (z % 4 * 64 + w) :: bytes)
  | _ => none

theorem decodeUnpadded?_digits (alphabet : Base64) (a b c : UInt8) (rest : List Char) :
    alphabet.decodeUnpadded? (alphabet.digit (a.toNat / 4) ::
      alphabet.digit (a.toNat % 4 * 16 + b.toNat / 16) ::
      alphabet.digit (b.toNat % 16 * 4 + c.toNat / 64) :: alphabet.digit (c.toNat % 64) :: rest) =
      (alphabet.decodeUnpadded? rest).map fun bytes => a :: b :: c :: bytes := by
  have ha := a.toNat_lt
  have hb := b.toNat_lt
  have hc := c.toNat_lt
  obtain ⟨h₁, h₂, h₃⟩ := bytes_of_digits a b c
  rw [decodeUnpadded?, value?_digit alphabet (by omega), value?_digit alphabet (by omega),
    value?_digit alphabet (by omega), value?_digit alphabet (by omega)]
  simp only [Option.bind_eq_bind, Option.bind_some, h₁, h₂, h₃]
  cases alphabet.decodeUnpadded? rest with
  | none => rfl
  | some bytes => rfl

/-- Bytes that have been written without padding are read back. -/
theorem decodeUnpadded?_encode (alphabet : Base64) (bytes : Bytes) :
    alphabet.decodeUnpadded? (alphabet.encode false bytes) = some bytes := by
  fun_induction encode alphabet false bytes with
  | case1 => rfl
  | case2 a =>
    have ha := a.toNat_lt
    have hp : padding false 2 = [] := rfl
    rw [hp, decodeUnpadded?, value?_digit alphabet (by omega), value?_digit alphabet (by omega)]
    exact lastOne?_digits a
  | case3 a b =>
    have ha := a.toNat_lt
    have hb := b.toNat_lt
    have hp : padding false 1 = [] := rfl
    rw [hp, decodeUnpadded?, value?_digit alphabet (by omega), value?_digit alphabet (by omega),
      value?_digit alphabet (by omega)]
    exact lastTwo?_digits a b
  | case4 a b c rest ih => rw [decodeUnpadded?_digits, ih, Option.map_some]

/-- What holds of each digit, and of the padding if there is any, holds of a whole form. -/
theorem forall_mem_encode {alphabet : Base64} {padded : Bool} {p : Char → Prop}
    (hd : ∀ n < 64, p (alphabet.digit n)) (hp : padded = true → p '=') (bytes : Bytes) :
    ∀ char ∈ alphabet.encode padded bytes, p char := by
  have hpadding (n : Nat) : ∀ char ∈ padding padded n, p char := by
    intro char hc
    unfold padding at hc
    split at hc
    next h => exact List.eq_of_mem_replicate hc ▸ hp h
    next => cases hc
  fun_induction encode alphabet padded bytes with
  | case1 => exact fun char hc => by cases hc
  | case2 a =>
    have ha := a.toNat_lt
    simp only [List.forall_mem_cons]
    exact ⟨hd _ (by omega), hd _ (by omega), hpadding 2⟩
  | case3 a b =>
    have ha := a.toNat_lt
    have hb := b.toNat_lt
    simp only [List.forall_mem_cons]
    exact ⟨hd _ (by omega), hd _ (by omega), hd _ (by omega), hpadding 1⟩
  | case4 a b c rest ih =>
    have ha := a.toNat_lt
    have hb := b.toNat_lt
    have hc := c.toNat_lt
    simp only [List.forall_mem_cons]
    exact ⟨hd _ (by omega), hd _ (by omega), hd _ (by omega), hd _ (by omega), ih⟩

end RequestScript.Base64
