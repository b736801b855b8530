import Mathlib.Algebra.Group.Nat.Defs
import RequestScript.Proofs.Base64

namespace RequestScript.Base64

variable {alphabet : Base64}

/-- A character with a value is the digit of this value. -/
theorem digit_value? {c : Char} {n : Nat} (h : alphabet.value? c = some n) :
    n < 64 ∧ alphabet.digit n = c := by
  have hle (a b : Char) : a ≤ b ↔ a.toNat ≤ b.toNat := Iff.rfl
  have hA : 'A'.toNat = 0x41 := rfl
  have hZ : 'Z'.toNat = 0x5a := rfl
  have ha : 'a'.toNat = 0x61 := rfl
  have hz : 'z'.toNat = 0x7a := rfl
  have h0 : '0'.toNat = 0x30 := rfl
  have h9 : '9'.toNat = 0x39 := rfl
  unfold value? at h
  split at h
  next hc =>
    obtain rfl := Option.some.inj h
    rw [hle, hle, hA, hZ] at hc
    refine ⟨by omega, ?_⟩
    rw [digit, if_pos (by omega), Nat.sub_add_cancel hc.1, Char.ofNat_toNat]
  split at h
  next hc =>
    obtain rfl := Option.some.inj h
    rw [hle, hle, ha, hz] at hc
    refine ⟨by omega, ?_⟩
    rw [digit, if_neg (by omega), if_pos (by omega), Nat.sub_add_cancel (by omega),
      Char.ofNat_toNat]
  split at h
  next hc =>
    obtain rfl := Option.some.inj h
    rw [hle, hle, h0, h9] at hc
    refine ⟨by omega, ?_⟩
    rw [digit, if_neg (by omega), if_neg (by omega), if_pos (by omega), Nat.add_sub_cancel,
      Char.ofNat_toNat]
  split at h
  next hc =>
    obtain rfl := Option.some.inj h
    exact ⟨by decide, by rw [hc]; rfl⟩
  split at h
  next hc =>
    obtain rfl := Option.some.inj h
    exact ⟨by decide, by rw [hc]; rfl⟩
  next => cases h

theorem value?_padding : alphabet.value? '=' = none := by
  cases alphabet <;> decide

theorem eq_encode_of_lastOne? {a b : Char} {x y : Nat} {bytes : Bytes}
    (hx : alphabet.value? a = some x) (hy : alphabet.value? b = some y)
    (h : lastOne? x y = some bytes) : [a, b, '=', '='] = alphabet.encode true bytes := by
  obtain ⟨hxl, rfl⟩ := digit_value? hx
  obtain ⟨hyl, rfl⟩ := digit_value? hy
  unfold lastOne? at h
  split at h
  next hl =>
    obtain rfl := Option.some.inj h
    have hn : (UInt8.ofNat (x * 4 + y / 16)).toNat = x * 4 + y / 16 :=
      toNat_ofNat_byte (by omega)
    have h₁ : (x * 4 + y / 16) / 4 = x := by omega
    have h₂ : (x * 4 + y / 16) % 4 * 16 = y := by omega
    rw [encode, hn, h₁, h₂]
    rfl
  next => cases h

theorem eq_encode_of_lastTwo? {a b c : Char} {x y z : Nat} {bytes : Bytes}
    (hx : alphabet.value? a = some x) (hy : alphabet.value? b = some y)
    (hz : alphabet.value? c = some z) (h : lastTwo? x y z = some bytes) :
    [a, b, c, '='] = alphabet.encode true bytes := by
  obtain ⟨hxl, rfl⟩ := digit_value? hx
  obtain ⟨hyl, rfl⟩ := digit_value? hy
  obtain ⟨hzl, rfl⟩ := digit_value? hz
  unfold lastTwo? at h
  split at h
  next hl =>
    obtain rfl := Option.some.inj h
    have hn : (UInt8.ofNat (x * 4 + y / 16)).toNat = x * 4 + y / 16 :=
      toNat_ofNat_byte (by omega)
    have hm : (UInt8.ofNat (y % 16 * 16 + z / 4)).toNat = y % 16 * 16 + z / 4 :=
      toNat_ofNat_byte (by omega)
    have h₁ : (x * 4 + y / 16) / 4 = x := by omega
    have h₂ : (x * 4 + y / 16) % 4 * 16 + (y % 16 * 16 + z / 4) / 16 = y := by omega
    have h₃ : (y % 16 * 16 + z / 4) % 16 * 4 = z := by omega
    rw [encode, hn, hm, h₁, h₂, h₃]
    rfl
  next => cases h

theorem encode_of_values {x y z w : Nat} (hx : x < 64) (hy : y < 64) (hz : z < 64) (hw : w < 64)
    (bytes : Bytes) :
    alphabet.encode true (UInt8.ofNat (x * 4 + y / 16) :: UInt8.ofNat (y % 16 * 16 + z / 4) ::
      UInt8.ofNat (z % 4 * 64 + w) :: bytes) =
      alphabet.digit x :: alphabet.digit y :: alphabet.digit z :: alphabet.digit w ::
        alphabet.encode true bytes := by
  have ha : (UInt8.ofNat (x * 4 + y / 16)).toNat = x * 4 + y / 16 :=
    toNat_ofNat_byte (by omega)
  have hb : (UInt8.ofNat (y % 16 * 16 + z / 4)).toNat = y % 16 * 16 + z / 4 :=
    toNat_ofNat_byte (by omega)
  have hc : (UInt8.ofNat (z % 4 * 64 + w)).toNat = z % 4 * 64 + w :=
    toNat_ofNat_byte (by omega)
  have h₁ : (x * 4 + y / 16) / 4 = x := by omega
  have h₂ : (x * 4 + y / 16) % 4 * 16 + (y % 16 * 16 + z / 4) / 16 = y := by omega
  have h₃ : (y % 16 * 16 + z / 4) % 16 * 4 + (z % 4 * 64 + w) / 64 = z := by omega
  have h₄ : (z % 4 * 64 + w) % 64 = w := by omega
  rw [encode, ha, hb, hc, h₁, h₂, h₃, h₄]

/-- A text is read as no other bytes than those whose padded form it is. -/
theorem eq_encode_of_decode? {text : List Char} {bytes : Bytes}
    (h : alphabet.decode? text = some bytes) : text = alphabet.encode true bytes := by
  fun_induction decode? alphabet text generalizing bytes with
  | case1 =>
    obtain rfl := Option.some.inj h
    rfl
  | case2 a b =>
    simp only [Option.bind_eq_bind, Option.bind_eq_some_iff] at h
    obtain ⟨x, hx, y, hy, hl⟩ := h
    exact eq_encode_of_lastOne? hx hy hl
  | case3 a b c hc =>
    simp only [Option.bind_eq_bind, Option.bind_eq_some_iff] at h
    obtain ⟨x, hx, y, hy, z, hz, hl⟩ := h
    exact eq_encode_of_lastTwo? hx hy hz hl
  | case4 a b c d rest _ _ ih =>
    simp only [Option.bind_eq_bind, Option.bind_eq_some_iff, Option.some.injEq] at h
    obtain ⟨x, hx, y, hy, z, hz, w, hw, tail, hr, rfl⟩ := h
    obtain ⟨hxl, rfl⟩ := digit_value? hx
    obtain ⟨hyl, rfl⟩ := digit_value? hy
    obtain ⟨hzl, rfl⟩ := digit_value? hz
    obtain ⟨hwl, rfl⟩ := digit_value? hw
    rw [encode_of_values hxl hyl hzl hwl, ← ih hr]
  | case5 => cases h

/-- Reading accepts exactly what writing makes. -/
theorem decode?_eq_some_iff {text : List Char} {bytes : Bytes} :
    alphabet.decode? text = some bytes ↔ text = alphabet.encode true bytes :=
  ⟨eq_encode_of_decode?, fun h => h ▸ decode?_encode alphabet bytes⟩

/-- Digits and the number of padding characters behind them make up a whole form: padding only
fills up the last group of four, and the bits that it stands in for are zero. -/
structure Fills (alphabet : Base64) (digits : List Char) (count : Nat) : Prop where
  inAlphabet : ∀ c ∈ digits, ∃ n, alphabet.value? c = some n
  whole : (digits.length + count) % 4 = 0
  few : count ≤ 2
  nothingLeft : ∀ c ∈ digits.getLast?, ∀ n, alphabet.value? c = some n → n % 4 ^ count = 0

theorem fills_cons {a b c d : Char} {digits : List Char} {count : Nat} :
    Fills alphabet (a :: b :: c :: d :: digits) count ↔
      (∀ e ∈ [a, b, c, d], ∃ n, alphabet.value? e = some n) ∧ Fills alphabet digits count := by
  have hl : (a :: b :: c :: d :: digits).length = digits.length + 4 := rfl
  have hm : (∀ e ∈ a :: b :: c :: d :: digits, ∃ n, alphabet.value? e = some n) ↔
      (∀ e ∈ [a, b, c, d], ∃ n, alphabet.value? e = some n) ∧
        ∀ e ∈ digits, ∃ n, alphabet.value? e = some n := by
    rw [show a :: b :: c :: d :: digits = [a, b, c, d] ++ digits from rfl, List.forall_mem_append]
  constructor
  · intro h
    have hw := h.whole
    refine ⟨(hm.mp h.inAlphabet).1, (hm.mp h.inAlphabet).2, by omega, h.few, fun e he => ?_⟩
    refine h.nothingLeft e ?_
    cases digits with
    | nil => cases he
    | cons first rest => simpa using he
  · rintro ⟨hg, h⟩
    have hw := h.whole
    refine ⟨hm.mpr ⟨hg, h.inAlphabet⟩, by omega, h.few, fun e he n hn => ?_⟩
    cases digits with
    | nil =>
      have hc : count = 0 := by
        have hf := h.few
        simp only [List.length_nil] at hw
        omega
      rw [hc, Nat.pow_zero, Nat.mod_one]
    | cons first rest => exact h.nothingLeft e (by simpa using he) n hn

theorem fills_encode (bytes : Bytes) :
    Fills alphabet (alphabet.encode false bytes) ((3 - bytes.length % 3) % 3) := by
  have hv {n : Nat} (h : n < 64) : ∃ m, alphabet.value? (alphabet.digit n) = some m :=
    ⟨n, value?_digit alphabet h⟩
  fun_induction encode alphabet false bytes with
  | case1 => exact ⟨by simp, rfl, by decide, by simp⟩
  | case2 a =>
    have ha := a.toNat_lt
    have hp : padding false 2 = [] := rfl
    rw [hp, show (3 - [a].length % 3) % 3 = 2 from rfl]
    refine ⟨?_, by simp, by decide, fun c hc n hn => ?_⟩
    · simp only [List.forall_mem_cons]
      exact ⟨hv (by omega), hv (by omega), by simp⟩
    · obtain rfl : alphabet.digit (a.toNat % 4 * 16) = c := Option.some.inj hc
      rw [value?_digit alphabet (by omega)] at hn
      obtain rfl := Option.some.inj hn
      exact Nat.mul_mod_left _ 16
  | case3 a b =>
    have ha := a.toNat_lt
    have hb := b.toNat_lt
    have hp : padding false 1 = [] := rfl
    rw [hp, show (3 - [a, b].length % 3) % 3 = 1 from rfl]
    refine ⟨?_, by simp, by decide, fun c hc n hn => ?_⟩
    · simp only [List.forall_mem_cons]
      exact ⟨hv (by omega), hv (by omega), hv (by omega), by simp⟩
    · obtain rfl : alphabet.digit (b.toNat % 16 * 4) = c := Option.some.inj hc
      rw [value?_digit alphabet (by omega)] at hn
      obtain rfl := Option.some.inj hn
      exact Nat.mul_mod_left _ 4
  | case4 a b c rest ih =>
    have ha := a.toNat_lt
    have hb := b.toNat_lt
    have hc := c.toNat_lt
    have hl : (a :: b :: c :: rest).length % 3 = rest.length % 3 := by
      simp only [List.length_cons]
      omega
    rw [hl]
    refine fills_cons.mpr ⟨?_, ih⟩
    simp only [List.forall_mem_cons]
    exact ⟨hv (by omega), hv (by omega), hv (by omega), hv (by omega), by simp⟩

theorem exists_decode?_of_fills : (digits : List Char) → {count : Nat} →
    Fills alphabet digits count →
      ∃ bytes, alphabet.decode? (digits ++ List.replicate count '=') = some bytes
  | [], count, h => by
    have hw := h.whole
    have hf := h.few
    simp only [List.length_nil] at hw
    obtain rfl : count = 0 := by omega
    exact ⟨[], rfl⟩
  | [a], count, h => by
    have hw := h.whole
    have hf := h.few
    simp only [List.length_cons, List.length_nil] at hw
    omega
  | [a, b], count, h => by
    have hw := h.whole
    have hf := h.few
    simp only [List.length_cons, List.length_nil] at hw
    obtain rfl : count = 2 := by omega
    obtain ⟨x, hx⟩ := h.inAlphabet a (by simp)
    obtain ⟨y, hy⟩ := h.inAlphabet b (by simp)
    exact ⟨_, (decode?_two alphabet hx hy).trans (if_pos (h.nothingLeft b rfl y hy))⟩
  | [a, b, c], count, h => by
    have hw := h.whole
    have hf := h.few
    simp only [List.length_cons, List.length_nil] at hw
    obtain rfl : count = 1 := by omega
    obtain ⟨x, hx⟩ := h.inAlphabet a (by simp)
    obtain ⟨y, hy⟩ := h.inAlphabet b (by simp)
    obtain ⟨z, hz⟩ := h.inAlphabet c (by simp)
    have hc : c ≠ '=' := by
      rintro rfl
      rw [value?_padding] at hz
      cases hz
    exact ⟨_, (decode?_three alphabet hc hx hy hz).trans (if_pos (h.nothingLeft c rfl z hz))⟩
  | a :: b :: c :: d :: digits, count, h => by
    obtain ⟨hg, hr⟩ := fills_cons.mp h
    obtain ⟨x, hx⟩ := hg a (by simp)
    obtain ⟨y, hy⟩ := hg b (by simp)
    obtain ⟨z, hz⟩ := hg c (by simp)
    obtain ⟨w, hw⟩ := hg d (by simp)
    have hd : d ≠ '=' := by
      rintro rfl
      rw [value?_padding] at hw
      cases hw
    obtain ⟨bytes, hb⟩ := exists_decode?_of_fills digits hr
    have hg := decode?_group hd hx hy hz hw (digits ++ List.replicate count '=')
    rw [hb, Option.map_some] at hg
    exact ⟨_, hg⟩

/-- The texts that are padded forms, without a look at what they are the forms of. -/
theorem exists_eq_encode_iff {text : List Char} :
    (∃ bytes, text = alphabet.encode true bytes) ↔
      ∃ digits count, text = digits ++ List.replicate count '=' ∧ Fills alphabet digits count := by
  constructor
  · rintro ⟨bytes, rfl⟩
    exact ⟨_, _, encode_padded alphabet bytes, fills_encode bytes⟩
  · rintro ⟨digits, count, rfl, h⟩
    obtain ⟨bytes, hb⟩ := exists_decode?_of_fills digits h
    exact ⟨bytes, eq_encode_of_decode? hb⟩

end RequestScript.Base64
