import RequestScript.Text.Utf8

namespace RequestScript

theorem toNat_ofNat_byte {n : Nat} (h : n < 256) : (UInt8.ofNat n).toNat = n := by
  simp [Nat.mod_eq_of_lt h]

theorem continuation?_tail (n : Nat) :
    continuation? (UInt8.ofNat (0x80 + n % 0x40)) = some (n % 0x40) := by
  have hn : (UInt8.ofNat (0x80 + n % 0x40)).toNat = 0x80 + n % 0x40 :=
    toNat_ofNat_byte (by omega)
  have hr : (0x80 : UInt8) ≤ UInt8.ofNat (0x80 + n % 0x40) ∧
      UInt8.ofNat (0x80 + n % 0x40) < 0xc0 := by
    simp only [UInt8.le_iff_toNat_le, UInt8.lt_iff_toNat_lt, hn, UInt8.reduceToNat]
    omega
  rw [continuation?, if_pos hr, hn, Nat.add_sub_cancel_left]

theorem charFrom?_toNat {low : Nat} {c : Char} (h : low ≤ c.toNat) :
    charFrom? low c.toNat = some c := by
  have hv : c.toNat.isValidChar := c.valid
  simp [charFrom?, h, hv, Char.ofNat_toNat]

theorem twoByteChar?_of_le {a : UInt8} (h : 0xe0 ≤ a.toNat) (b : UInt8) :
    twoByteChar? a b = none := by
  have hl : ¬ a < 0xe0 := by
    rw [UInt8.lt_iff_toNat_lt]
    simpa using h
  unfold twoByteChar?
  cases continuation? b <;> simp [hl]

theorem threeByteChar?_of_le {a : UInt8} (h : 0xf0 ≤ a.toNat) (b c : UInt8) :
    threeByteChar? a b c = none := by
  have hl : ¬ a < 0xf0 := by
    rw [UInt8.lt_iff_toNat_lt]
    simpa using h
  unfold threeByteChar?
  cases continuation? b <;> cases continuation? c <;> simp [hl]

theorem decodeBytes_one {a : UInt8} (h : a < 0x80) (rest : Bytes) :
    decodeBytes (a :: rest) = some (Char.ofNat a.toNat) :: decodeBytes rest := by
  rw [decodeBytes.eq_def]
  exact if_pos h

theorem decodeBytes_two {a b : UInt8} {char : Char} (h : ¬ a < 0x80)
    (hc : twoByteChar? a b = some char) (rest : Bytes) :
    decodeBytes (a :: b :: rest) = some char :: decodeBytes rest := by
  rw [decodeBytes.eq_def]
  simp only [if_neg h, hc]

theorem decodeBytes_three {a b c : UInt8} {char : Char} (h : ¬ a < 0x80)
    (h₂ : twoByteChar? a b = none) (hc : threeByteChar? a b c = some char) (rest : Bytes) :
    decodeBytes (a :: b :: c :: rest) = some char :: decodeBytes rest := by
  rw [decodeBytes.eq_def]
  simp only [if_neg h, h₂, hc]

theorem decodeBytes_four {a b c d : UInt8} {char : Char} (h : ¬ a < 0x80)
    (h₂ : twoByteChar? a b = none) (h₃ : threeByteChar? a b c = none)
    (hc : fourByteChar? a b c d = some char) (rest : Bytes) :
    decodeBytes (a :: b :: c :: d :: rest) = some char :: decodeBytes rest := by
  rw [decodeBytes.eq_def]
  simp only [if_neg h, h₂, h₃, hc]

theorem twoByteChar?_toNat {c : Char} (h₁ : 0x80 ≤ c.toNat) (h₂ : c.toNat < 0x800) :
    twoByteChar? (UInt8.ofNat (0xc0 + c.toNat / 0x40)) (UInt8.ofNat (0x80 + c.toNat % 0x40)) =
      some c := by
  have ha := toNat_ofNat_byte (n := 0xc0 + c.toNat / 0x40) (by omega)
  generalize UInt8.ofNat (0xc0 + c.toNat / 0x40) = a at ha ⊢
  have hr : (0xc0 : UInt8) ≤ a ∧ a < 0xe0 := by
    simp only [UInt8.le_iff_toNat_le, UInt8.lt_iff_toNat_lt, ha, UInt8.reduceToNat]
    omega
  have hn : (a.toNat - 0xc0) * 0x40 + c.toNat % 0x40 = c.toNat := by omega
  simp only [twoByteChar?, continuation?_tail, Option.bind_eq_bind, Option.bind_some, if_pos hr, hn]
  exact charFrom?_toNat h₁

theorem threeByteChar?_toNat {c : Char} (h₁ : 0x800 ≤ c.toNat) (h₂ : c.toNat < 0x10000) :
    threeByteChar? (UInt8.ofNat (0xe0 + c.toNat / 0x1000))
      (UInt8.ofNat (0x80 + c.toNat / 0x40 % 0x40)) (UInt8.ofNat (0x80 + c.toNat % 0x40)) =
      some c := by
  have ha := toNat_ofNat_byte (n := 0xe0 + c.toNat / 0x1000) (by omega)
  generalize UInt8.ofNat (0xe0 + c.toNat / 0x1000) = a at ha ⊢
  have hr : (0xe0 : UInt8) ≤ a ∧ a < 0xf0 := by
    simp only [UInt8.le_iff_toNat_le, UInt8.lt_iff_toNat_lt, ha, UInt8.reduceToNat]
    omega
  have hn : (a.toNat - 0xe0) * 0x1000 + c.toNat / 0x40 % 0x40 * 0x40 + c.toNat % 0x40 =
      c.toNat := by omega
  simp only [threeByteChar?, continuation?_tail, Option.bind_eq_bind, Option.bind_some, if_pos hr,
    hn]
  exact charFrom?_toNat h₁

theorem fourByteChar?_of_tails {a b c d : UInt8} {y z w : Nat} (hb : continuation? b = some y)
    (hc : continuation? c = some z) (hd : continuation? d = some w)
    (hr : (0xf0 : UInt8) ≤ a ∧ a < 0xf8) :
    fourByteChar? a b c d =
      charFrom? 0x10000 ((a.toNat - 0xf0) * 0x40000 + y * 0x1000 + z * 0x40 + w) := by
  rw [fourByteChar?, hb, hc, hd]
  exact if_pos hr

theorem fourByteChar?_toNat {c : Char} (h₁ : 0x10000 ≤ c.toNat) (h₂ : c.toNat < 0x110000) :
    fourByteChar? (UInt8.ofNat (0xf0 + c.toNat / 0x40000))
      (UInt8.ofNat (0x80 + c.toNat / 0x1000 % 0x40)) (UInt8.ofNat (0x80 + c.toNat / 0x40 % 0x40))
      (UInt8.ofNat (0x80 + c.toNat % 0x40)) = some c := by
  have ha := toNat_ofNat_byte (n := 0xf0 + c.toNat / 0x40000) (by omega)
  generalize UInt8.ofNat (0xf0 + c.toNat / 0x40000) = a at ha ⊢
  have hr : (0xf0 : UInt8) ≤ a ∧ a < 0xf8 := by
    simp only [UInt8.le_iff_toNat_le, UInt8.lt_iff_toNat_lt, ha, UInt8.reduceToNat]
    omega
  have hn : (a.toNat - 0xf0) * 0x40000 + c.toNat / 0x1000 % 0x40 * 0x1000 +
      c.toNat / 0x40 % 0x40 * 0x40 + c.toNat % 0x40 = c.toNat := by omega
  rw [fourByteChar?_of_tails (continuation?_tail _) (continuation?_tail _) (continuation?_tail _) hr,
    hn]
  exact charFrom?_toNat h₁

theorem not_lt_of_lead {n : Nat} (h₁ : 0x80 ≤ n) (h₂ : n < 256) : ¬ UInt8.ofNat n < 0x80 := by
  rw [UInt8.lt_iff_toNat_lt, toNat_ofNat_byte h₂]
  simpa using h₁

/-- The bytes of a character are read as this character, whatever follows them. -/
theorem decodeBytes_encodeChar (c : Char) (rest : Bytes) :
    decodeBytes (encodeChar c ++ rest) = some c :: decodeBytes rest := by
  have hmax : c.toNat < 0x110000 := by
    have hv : c.toNat.isValidChar := c.valid
    unfold Nat.isValidChar at hv
    omega
  simp only [encodeChar, Nat.div_one]
  split
  next h₁ =>
    have ha := toNat_ofNat_byte (n := c.toNat) (by omega)
    have hl : UInt8.ofNat c.toNat < 0x80 := by
      rw [UInt8.lt_iff_toNat_lt, ha]
      exact h₁
    rw [List.singleton_append, decodeBytes_one hl, ha, Char.ofNat_toNat]
  split
  next h₁ h₂ =>
    exact decodeBytes_two (not_lt_of_lead (by omega) (by omega))
      (twoByteChar?_toNat (by omega) h₂) rest
  -- a longer sequence is tried after the shorter ones, so its first byte has to refuse these
  split
  next h₁ h₂ h₃ =>
    have ha := toNat_ofNat_byte (n := 0xe0 + c.toNat / 0x1000) (by omega)
    exact decodeBytes_three (not_lt_of_lead (by omega) (by omega))
      (twoByteChar?_of_le (by omega) _) (threeByteChar?_toNat (by omega) h₃) rest
  next h₁ h₂ h₃ =>
    have ha := toNat_ofNat_byte (n := 0xf0 + c.toNat / 0x40000) (by omega)
    exact decodeBytes_four (not_lt_of_lead (by omega) (by omega))
      (twoByteChar?_of_le (by omega) _) (threeByteChar?_of_le (by omega) _ _)
      (fourByteChar?_toNat (by omega) hmax) rest

/-- The bytes of a character are those that strings are kept in. -/
theorem encodeChar_eq_utf8EncodeChar (c : Char) : encodeChar c = String.utf8EncodeChar c := by
  have hmax : c.toNat < 0x110000 := by
    have hv : c.toNat.isValidChar := c.valid
    unfold Nat.isValidChar at hv
    omega
  have hv : c.val.toNat = c.toNat := rfl
  simp only [encodeChar, String.utf8EncodeChar, hv, Nat.div_one]
  generalize c.toNat = n at hmax
  split
  next h₁ => rw [if_pos (show n ≤ 127 by omega)]
  split
  next h₁ h₂ =>
    have ha : 0xc0 + n / 64 = n / 64 % 32 + 192 := by omega
    rw [if_neg (show ¬ n ≤ 127 by omega), if_pos (show n ≤ 2047 by omega), ha, Nat.add_comm 0x80]
  split
  next h₁ h₂ h₃ =>
    have ha : 0xe0 + n / 4096 = n / 4096 % 16 + 224 := by omega
    rw [if_neg (show ¬ n ≤ 127 by omega), if_neg (show ¬ n ≤ 2047 by omega),
      if_pos (show n ≤ 65535 by omega), ha, Nat.add_comm 0x80, Nat.add_comm 0x80]
  next h₁ h₂ h₃ =>
    have ha : 0xf0 + n / 262144 = n / 262144 % 8 + 240 := by omega
    rw [if_neg (show ¬ n ≤ 127 by omega), if_neg (show ¬ n ≤ 2047 by omega),
      if_neg (show ¬ n ≤ 65535 by omega), ha, Nat.add_comm 0x80, Nat.add_comm 0x80,
      Nat.add_comm 0x80]

theorem utf8Bytes_eq_toUTF8 (text : String) : utf8Bytes text = text.toUTF8.data.toList := by
  have hf : encodeChar = String.utf8EncodeChar := funext encodeChar_eq_utf8EncodeChar
  have ht : text.toUTF8 = text.toList.utf8Encode := String.utf8Encode_toList.symm
  rw [utf8Bytes, encodeText, hf, ht, List.utf8Encode, List.toList_data_toByteArray]

theorem decodeBytes_encodeText (text : List Char) :
    decodeBytes (encodeText text) = text.map some := by
  induction text with
  | nil => rfl
  | cons c cs ih =>
    rw [encodeText, List.flatMap_cons, decodeBytes_encodeChar, ← encodeText, ih, List.map_cons]

theorem allChars?_map_some (text : List Char) : allChars? (text.map some) = some text := by
  induction text with
  | nil => rfl
  | cons c cs ih => simp only [List.map_cons, allChars?, ih, Option.map_some]

/-- A text that has been written in UTF-8 is read back. -/
theorem decodeText?_encodeText (text : List Char) :
    decodeText? (encodeText text) = some (String.ofList text) := by
  rw [decodeText?, decodeBytes_encodeText, allChars?_map_some, Option.map_some]

theorem encodeText_injective {a b : List Char} (h : encodeText a = encodeText b) : a = b := by
  have hd := congrArg (fun bytes => allChars? (decodeBytes bytes)) h
  simp only [decodeBytes_encodeText, allChars?_map_some] at hd
  exact Option.some.inj hd

end RequestScript
