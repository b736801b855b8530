import RequestScript.Token.Lexeme

namespace RequestScript

namespace Opening

/-- What an announcement tells about the character, and about the one after it. -/
def Fits (c : Char) (next : Option Char) : Opening → Prop
  | atSign => c = '@'
  | numberSign => c = '#'
  | digit => c.isDigit = true
  | dot => c = '.'
  | leftBrace => c = '{'
  | rightBrace => c = '}'
  | lineEnd => c = '\n' ∨ c = '\r'
  | sigil => c = '\x22' ∨ c = '\x60'
  | apostrophe => c = '\x27'
  | dollar => c = '$'
  | heredoc => c = '<' ∧ next = some '<'
  | letter => isAlphabetic c = true
  | other => True

theorem fits_of (c : Char) (next : Option Char) : (of c next).Fits c next := by
  unfold of
  repeat' split
  all_goals simp_all [Fits]

theorem fits {c : Char} {next : Option Char} {opening : Opening} (h : of c next = opening) :
    opening.Fits c next := by
  rw [← h]
  exact fits_of c next

theorem not_isLayout_of_isAlphabetic {c : Char} (h : isAlphabetic c = true) :
    isLayout c = false := by
  by_cases hl : isLayout c = true
  · simp only [isLayout, Bool.or_eq_true, beq_iff_eq] at hl
    rcases hl with ((rfl | rfl) | rfl) | rfl <;> exact absurd h (by decide)
  · simpa using hl

theorem not_isDelimiter_of_letter {c : Char} {next : Option Char} (h : of c next = letter) :
    isDelimiter c = false := by
  have hl := not_isLayout_of_isAlphabetic (fits h)
  have hq : c ≠ '.' ∧ c ≠ '{' ∧ c ≠ '}' ∧ c ≠ '$' ∧ c ≠ '\x22' ∧ c ≠ '\x60' := by
    refine ⟨?_, ?_, ?_, ?_, ?_, ?_⟩ <;> rintro rfl <;> simp [of] at h
  simp [isDelimiter, hl, isQuoteSigil, QuoteSigil.ofChar?, QuoteSigil.char, hq]

theorem not_endsBareWord_of_other {c : Char} {next : Option Char} (h : of c next = other)
    (hs : isSpacing c = false) : endsBareWord c = false := by
  have hq : c ≠ '\n' ∧ c ≠ '\r' ∧ c ≠ '$' ∧ c ≠ '\x22' ∧ c ≠ '\x60' := by
    refine ⟨?_, ?_, ?_, ?_, ?_⟩ <;> rintro rfl <;> simp [of] at h
  simp only [isSpacing, Bool.or_eq_false_iff, beq_eq_false_iff_ne] at hs
  simp [endsBareWord, isLayout, hs, isQuoteSigil, QuoteSigil.ofChar?, QuoteSigil.char, hq]

end Opening

namespace Lexeme

theorem prepend_text_append {lexeme : Lexeme} {literal text input : List Char}
    (h : lexeme.text ++ lexeme.rest = input) :
    (lexeme.prepend literal text).text ++ (lexeme.prepend literal text).rest = text ++ input := by
  simp [prepend, h]

theorem readMacro_text_append (text : List Char) :
    (readMacro text).text ++ (readMacro text).rest = '@' :: text := by
  unfold readMacro
  split <;> simp

theorem readNumber_text_append (text : List Char) :
    (readNumber text).text ++ (readNumber text).rest = text := by
  have whole := List.takeWhile_append_dropWhile (p := Char.isDigit) (l := text)
  unfold readNumber
  split
  next d rest h =>
    rw [h] at whole
    split <;> simp [whole]
  next => exact whole

theorem readRaw_text_append (text : List Char) :
    (readRaw text).text ++ (readRaw text).rest = '\x27' :: text := by
  have whole := List.takeWhile_append_dropWhile (p := (· != '\x27')) (l := text)
  unfold readRaw
  split
  next h => rw [h] at whole; simpa using whole
  next close rest h => rw [h] at whole; simpa using whole

theorem readVariable_text_append (text : List Char) :
    (readVariable text).text ++ (readVariable text).rest = '$' :: text := by
  unfold readVariable
  split
  next inner =>
    have whole := List.takeWhile_append_dropWhile (p := isNamePart) (l := inner)
    split
    · split
      next rest h => rw [h] at whole; simpa using whole
      next => simp
    · simp
  next => split <;> simp

theorem readHeredocBody_text_append (label : List Char) (lines : List (List Char)) :
    (readHeredocBody label lines).text ++ (readHeredocBody label lines).rest = lines.flatten := by
  have whole := List.takeWhile_append_dropWhile (p := fun line => trim line != label) (l := lines)
  unfold readHeredocBody
  split
  next h =>
    rw [h, List.append_nil] at whole
    simp [whole]
  next last after h =>
    rw [h] at whole
    conv => rhs; rw [← whole]
    simp

theorem readHeredoc_text_append (text : List Char) :
    (readHeredoc text).text ++ (readHeredoc text).rest = '<' :: '<' :: text := by
  have whole := List.takeWhile_append_dropWhile (p := (· != '\n')) (l := text)
  unfold readHeredoc
  split
  next h => rw [h] at whole; simpa using whole
  next newline body h =>
    rw [h] at whole
    dsimp only
    split
    · simpa using whole
    · rw [prepend_text_append (readHeredocBody_text_append _ _), flatten_splitLines]
      simpa using whole

theorem readPlain_text_append (keywords : Keywords) (text : List Char) :
    (readPlain keywords text).text ++ (readPlain keywords text).rest = text := by
  cases text with
  | nil => rfl
  | cons c cs =>
    cases h : Opening.of c cs.head? <;> simp only [readPlain, h]
    case atSign =>
      obtain rfl : c = '@' := Opening.fits h
      exact readMacro_text_append cs
    case numberSign =>
      obtain rfl : c = '#' := Opening.fits h
      simp [readComment]
    case digit => exact readNumber_text_append _
    case dot | sigil => rfl
    case leftBrace | rightBrace | lineEnd => simp [readLayout]
    case apostrophe =>
      obtain rfl : c = '\x27' := Opening.fits h
      exact readRaw_text_append cs
    case dollar =>
      obtain rfl : c = '$' := Opening.fits h
      exact readVariable_text_append cs
    case heredoc =>
      obtain ⟨rfl, hs⟩ : c = '<' ∧ cs.head? = some '<' := Opening.fits h
      obtain ⟨rest, rfl⟩ := List.head?_eq_some_iff.mp hs
      exact readHeredoc_text_append _
    case letter => simp [readIdentifier]
    case other => simp [readBareWord]

theorem readVerbatim_text_append (sigil : QuoteSigil) (text : List Char) :
    (readVerbatim sigil text).text ++ (readVerbatim sigil text).rest = text := by
  fun_induction readVerbatim sigil text with
  | case1 => rfl
  | case2 c cs _ ih => simp [prepend_text_append ih]
  | case3 c cs _ ih => simp [prepend_text_append ih]
  | case4 c cs => rfl
  | case5 c cs _ _ ih => simp [prepend_text_append ih]

theorem readQuoted_text_append (sigil : QuoteSigil) (text : List Char) :
    (readQuoted sigil text).text ++ (readQuoted sigil text).rest = text := by
  unfold readQuoted
  split
  next => rfl
  next c cs =>
    split
    next h => rw [readVariable_text_append, h]
    next =>
      split
      · rfl
      · exact readVerbatim_text_append _ _

/-- Nothing is lost: what a lexeme has read and what it leaves are the text it was read from. -/
theorem read_text_append (keywords : Keywords) (region : Option QuoteSigil) (text : List Char) :
    (read keywords region text).text ++ (read keywords region text).rest = text := by
  cases region with
  | none => exact readPlain_text_append _ _
  | some sigil => exact readQuoted_text_append _ _

theorem readHeredoc_text_ne_nil (text : List Char) : (readHeredoc text).text ≠ [] := by
  unfold readHeredoc
  split
  · simp
  · dsimp only
    split <;> simp [prepend]

theorem readVariable_text_ne_nil (text : List Char) : (readVariable text).text ≠ [] := by
  unfold readVariable
  split
  · split
    · split <;> simp
    · simp
  · split <;> simp

theorem readPlain_text_ne_nil (keywords : Keywords) {c : Char} (cs : List Char)
    (hs : isSpacing c = false) : (readPlain keywords (c :: cs)).text ≠ [] := by
  cases h : Opening.of c cs.head? <;> simp only [readPlain, h]
  case atSign => unfold readMacro; split <;> simp
  case digit =>
    have hd : c.isDigit = true := Opening.fits h
    unfold readNumber
    split
    · split <;> simp [hd]
    · simp [hd]
  case apostrophe => unfold readRaw; split <;> simp
  case dollar => exact readVariable_text_ne_nil _
  case heredoc => exact readHeredoc_text_ne_nil _
  case letter => simp [readIdentifier, Opening.not_isDelimiter_of_letter h]
  case other => simp [readBareWord, Opening.not_endsBareWord_of_other h hs]
  all_goals simp [readComment, readLayout]

theorem readVerbatim_text_ne_nil {sigil : QuoteSigil} {c : Char} (cs : List Char)
    (hd : c ≠ '$') (hq : c ≠ sigil.char) : (readVerbatim sigil (c :: cs)).text ≠ [] := by
  unfold readVerbatim
  split
  next heq => cases heq
  next => split <;> simp [prepend]
  next heq => cases heq; simp [hd, hq, prepend]

theorem readQuoted_text_ne_nil (sigil : QuoteSigil) (c : Char) (cs : List Char) :
    (readQuoted sigil (c :: cs)).text ≠ [] := by
  simp only [readQuoted]
  split
  next => exact readVariable_text_ne_nil _
  next hd =>
    split
    next => simp
    next hq => exact readVerbatim_text_ne_nil _ hd hq

end Lexeme

end RequestScript
