import Mathlib.Algebra.Group.Int.Defs
import RequestScript.Word

namespace RequestScript

/-- One decimal digit or more. -/
def IsDigits (text : List Char) : Prop :=
  text ≠ [] ∧ ∀ c ∈ text, '0' ≤ c ∧ c ≤ '9'

/-- The integer that a text denotes in decimal digits, with at most one sign before them. -/
inductive Denotes : List Char → Int → Prop
  | unsigned {digits : List Char} (h : IsDigits digits) :
      Denotes digits (Nat.ofDigitChars 10 digits 0)
  | plus {digits : List Char} (h : IsDigits digits) :
      Denotes ('+' :: digits) (Nat.ofDigitChars 10 digits 0)
  | minus {digits : List Char} (h : IsDigits digits) :
      Denotes ('-' :: digits) (-(Nat.ofDigitChars 10 digits 0 : Nat))

theorem not_isDigits_cons {c : Char} (h : ¬ ('0' ≤ c ∧ c ≤ '9')) (cs : List Char) :
    ¬ IsDigits (c :: cs) :=
  fun hd => h (hd.2 c List.mem_cons_self)

theorem naturalOf_eq_ofDigitChars (digits : List Char) :
    naturalOf digits = Nat.ofDigitChars 10 digits 0 := by
  have hf : (fun n c => n * 10 + digitValue c) = fun n c => 10 * n + (c.toNat - '0'.toNat) :=
    funext fun n => funext fun c => congrArg (· + digitValue c) (Nat.mul_comm n 10)
  rw [naturalOf, hf, Nat.ofDigitChars]

theorem naturalOfDigits?_eq_some_iff {digits : List Char} {n : Nat} :
    naturalOfDigits? digits = some n ↔ IsDigits digits ∧ Nat.ofDigitChars 10 digits 0 = n := by
  have hd : digits.all Char.isDigit = true ↔ ∀ c ∈ digits, '0' ≤ c ∧ c ≤ '9' := by
    rw [List.all_eq_true]
    exact forall₂_congr fun c _ => Char.isDigit_iff_toNat
  simp only [naturalOfDigits?, IsDigits, hd, naturalOf_eq_ofDigitChars,
    Option.ite_none_right_eq_some, Option.some_inj]

/-- The integer that a text denotes, whatever its size. -/
def integerOf? : List Char → Option Int
  | '-' :: digits => (naturalOfDigits? digits).map fun n : Nat => -(n : Int)
  | '+' :: digits => (naturalOfDigits? digits).map fun n : Nat => (n : Int)
  | digits => (naturalOfDigits? digits).map fun n : Nat => (n : Int)

theorem parseInt?_eq_filter (text : List Char) :
    parseInt? text = (integerOf? text).filter inWordRange := by
  unfold parseInt?
  split
  next digits =>
    rw [integerOf?]
    cases naturalOfDigits? digits <;> rfl
  next digits =>
    rw [integerOf?]
    cases naturalOfDigits? digits <;> rfl
  next hm hp =>
    rw [integerOf?.eq_def]
    split
    next => exact absurd rfl (hm _)
    next => exact absurd rfl (hp _)
    next => cases naturalOfDigits? text <;> rfl

theorem integerOf?_eq_some_iff {text : List Char} {n : Int} :
    integerOf? text = some n ↔ Denotes text n := by
  have hmap (f : Nat → Int) (digits : List Char) : (naturalOfDigits? digits).map f = some n ↔
      IsDigits digits ∧ f (Nat.ofDigitChars 10 digits 0) = n := by
    simp only [Option.map_eq_some_iff, naturalOfDigits?_eq_some_iff, and_assoc, exists_and_left,
      exists_eq_left']
  unfold integerOf?
  split
  next digits =>
    rw [hmap]
    constructor
    · rintro ⟨hd, rfl⟩
      exact .minus hd
    · intro h
      cases h with
      | unsigned hd => exact absurd hd (not_isDigits_cons (by decide) digits)
      | minus hd => exact ⟨hd, rfl⟩
  next digits =>
    rw [hmap]
    constructor
    · rintro ⟨hd, rfl⟩
      exact .plus hd
    · intro h
      cases h with
      | unsigned hd => exact absurd hd (not_isDigits_cons (by decide) digits)
      | plus hd => exact ⟨hd, rfl⟩
  next hm hp =>
    rw [hmap]
    constructor
    · rintro ⟨hd, rfl⟩
      exact .unsigned hd
    · intro h
      cases h with
      | unsigned hd => exact ⟨hd, rfl⟩
      | plus => exact absurd rfl (hp _)
      | minus => exact absurd rfl (hm _)

theorem inWordRange_iff (n : Int) :
    inWordRange n = true ↔ -2 ^ 63 ≤ n ∧ n ≤ 2 ^ 63 - 1 := by
  simp [inWordRange]

theorem parseInt?_eq_some_iff {text : List Char} {n : Int} :
    parseInt? text = some n ↔ Denotes text n ∧ -2 ^ 63 ≤ n ∧ n ≤ 2 ^ 63 - 1 := by
  rw [parseInt?_eq_filter, Option.filter_eq_some_iff, integerOf?_eq_some_iff, inWordRange_iff]

theorem coerceInt_eq_ok_iff {text : String} {n : Int} :
    coerceInt text = .ok n ↔ Denotes text.toList n ∧ -2 ^ 63 ≤ n ∧ n ≤ 2 ^ 63 - 1 := by
  rw [← parseInt?_eq_some_iff]
  unfold coerceInt
  cases parseInt? text.toList <;> simp

theorem coerceInt_eq_error_iff {text : String} : coerceInt text = .error (.notInt text) ↔
    ¬ ∃ n, Denotes text.toList n ∧ -2 ^ 63 ≤ n ∧ n ≤ 2 ^ 63 - 1 := by
  simp only [← parseInt?_eq_some_iff]
  unfold coerceInt
  cases parseInt? text.toList <;> simp

theorem denotes_toDigits (n : Nat) : IsDigits (Nat.toDigits 10 n) ∧
    Nat.ofDigitChars 10 (Nat.toDigits 10 n) 0 = n := by
  refine ⟨⟨Nat.toDigits_ne_nil, fun c hc => ?_⟩, Nat.ofDigitChars_ten_toDigits⟩
  exact Char.isDigit_iff_toNat.mp (Nat.isDigit_of_mem_toDigits (by decide) (by decide) hc)

/-- The decimal form of an integer denotes it. -/
theorem denotes_toString (n : Int) : Denotes (toString n).toList n := by
  cases n with
  | ofNat n =>
    obtain ⟨hd, hv⟩ := denotes_toDigits n
    have h := Denotes.unsigned hd
    rwa [hv, ← Nat.toList_repr] at h
  | negSucc n =>
    obtain ⟨hd, hv⟩ := denotes_toDigits (n + 1)
    have h := Denotes.minus hd
    have ht : (toString (Int.negSucc n)).toList = '-' :: (n + 1).repr.toList :=
      String.toList_append
    rwa [hv, ← Nat.toList_repr, ← ht] at h

theorem Denotes.unique {text : List Char} {m n : Int} (hm : Denotes text m) (hn : Denotes text n) :
    m = n := by
  rw [← integerOf?_eq_some_iff] at hm hn
  exact Option.some.inj (hm.symm.trans hn)

theorem coerceInt_toString (n : Int) : coerceInt (toString n) =
    if -2 ^ 63 ≤ n ∧ n ≤ 2 ^ 63 - 1 then .ok n else .error (.notInt (toString n)) := by
  split
  next hr => exact coerceInt_eq_ok_iff.mpr ⟨denotes_toString n, hr⟩
  next hr =>
    refine coerceInt_eq_error_iff.mpr fun ⟨other, ho, hb⟩ => hr ?_
    rwa [(denotes_toString n).unique ho]

/-- A text is read as an integer exactly if it denotes one of 64 bits, in decimal digits with at most
one sign and as many zeros before them as it likes. Any other text is given back in the error, and
the decimal form of each integer of 64 bits is read as this integer. -/
theorem integers_read_exactly :
    (∀ text n, coerceInt text = .ok n ↔
      Denotes text.toList n ∧ -2 ^ 63 ≤ n ∧ n ≤ 2 ^ 63 - 1) ∧
    (∀ text, coerceInt text = .error (.notInt text) ↔
      ¬ ∃ n, Denotes text.toList n ∧ -2 ^ 63 ≤ n ∧ n ≤ 2 ^ 63 - 1) ∧
    ∀ n : Int, -2 ^ 63 ≤ n → n ≤ 2 ^ 63 - 1 → coerceInt (toString n) = .ok n :=
  ⟨fun _ _ => coerceInt_eq_ok_iff, fun _ => coerceInt_eq_error_iff,
    fun n hl hu => (coerceInt_toString n).trans (if_pos ⟨hl, hu⟩)⟩

example : coerceInt "-0009223372036854775808" = .ok (-9223372036854775808) := rfl

example : coerceInt "9223372036854775808" = .error (.notInt "9223372036854775808") := rfl

end RequestScript
