import Mathlib.Data.List.TakeWhile
import RequestScript.Token.Scanner

namespace RequestScript

/-- A name of a variable or a macro. -/
def IsName (text : List Char) : Prop :=
  startsName text = true ∧ ∀ c ∈ text, isNamePart c = true

/-- A line with the newline that ends it. -/
def IsLine (line : List Char) : Prop :=
  ∃ body, '\n' ∉ body ∧ line = body ++ ['\n']

/-- A text without each backslash that takes the meaning of the character behind it. -/
def unescape (sigil : QuoteSigil) : List Char → List Char
  | [] => []
  | '\\' :: c :: cs =>
    if Lexeme.isEscapable sigil c then c :: unescape sigil cs else '\\' :: unescape sigil (c :: cs)
  | c :: cs => c :: unescape sigil cs

/-- What the text of a lexeme says about its kind and its literal, inside a quoted region or outside
of all, and in front of what follows. -/
inductive Spelling : Option QuoteSigil → Lexeme → Prop
  | endOfInput : Spelling none ⟨.endOfInput, [], [], []⟩
  | endOfLine {c : Char} {layout rest : List Char} (hc : c = '\n' ∨ c = '\r')
      (hl : ∀ d ∈ layout, isLayout d = true) : Spelling none ⟨.endOfLine, [], c :: layout, rest⟩
  | openQuote {sigil : QuoteSigil} {rest : List Char} :
      Spelling none ⟨.quote, [], [sigil.char], rest⟩
  | closeQuote {sigil : QuoteSigil} {rest : List Char} :
      Spelling (some sigil) ⟨.quote, [], [sigil.char], rest⟩
  | comment {raw rest : List Char} (hn : '\n' ∉ raw) (hr : rest = [] ∨ rest.head? = some '\n') :
      Spelling none ⟨.comment, trim raw, '#' :: raw, rest⟩
  | word {kind : TokenKind} {c : Char} {cs rest : List Char}
      (hk : kind = .identifier ∨ kind = .keyword) (hc : isAlphabetic c = true)
      (hw : ∀ d ∈ c :: cs, isDelimiter d = false) : Spelling none ⟨kind, c :: cs, c :: cs, rest⟩
  | macroName {name rest : List Char} (h : IsName name) :
      Spelling none ⟨.macroName, name, '@' :: name, rest⟩
  | variableName {region : Option QuoteSigil} {name rest : List Char} (h : IsName name) :
      Spelling region ⟨.variableName, name, '$' :: name, rest⟩
  | bracedVariable {region : Option QuoteSigil} {name rest : List Char} (h : IsName name) :
      Spelling region ⟨.variableName, name, '$' :: '{' :: (name ++ ['}']), rest⟩
  | number {whole rest : List Char} (hn : whole ≠ []) (hw : ∀ d ∈ whole, d.isDigit = true) :
      Spelling none ⟨.number, whole, whole, rest⟩
  | fraction {whole digits rest : List Char} (hn : whole ≠ []) (hd : digits ≠ [])
      (hw : ∀ d ∈ whole ++ digits, d.isDigit = true) :
      Spelling none ⟨.number, whole ++ '.' :: digits, whole ++ '.' :: digits, rest⟩
  | bareWord {c : Char} {cs rest : List Char} (hc : Opening.of c (cs ++ rest).head? = .other)
      (hw : ∀ d ∈ c :: cs, endsBareWord d = false) :
      Spelling none ⟨.string, c :: cs, c :: cs, rest⟩
  | raw {body rest : List Char} (h : '\x27' ∉ body) :
      Spelling none ⟨.string, body, '\x27' :: (body ++ ['\x27']), rest⟩
  | heredoc {label last rest : List Char} {lines : List (List Char)} (hl : '\n' ∉ label)
      (hb : isBlank label = false) (hn : ∀ line ∈ lines, IsLine line ∧ trim line ≠ trim label)
      (ht : trim last = trim label) (he : IsLine last ∨ ('\n' ∉ last ∧ rest = [])) :
      Spelling none ⟨.string, heredocText lines,
        '<' :: '<' :: (label ++ '\n' :: (lines.flatten ++ last)), rest⟩
  | verbatim {sigil : QuoteSigil} {c : Char} {text rest : List Char} (hn : text ≠ [])
      (hc : c = '$' ∨ c = sigil.char) :
      Spelling (some sigil) ⟨.string, unescape sigil text, text, c :: rest⟩
  | dot {rest : List Char} : Spelling none ⟨.dot, [], ['.'], rest⟩
  | leftBrace {layout rest : List Char} (hl : ∀ d ∈ layout, isLayout d = true) :
      Spelling none ⟨.leftBrace, [], '{' :: layout, rest⟩
  | rightBrace {layout rest : List Char} (hl : ∀ d ∈ layout, isLayout d = true) :
      Spelling none ⟨.rightBrace, [], '}' :: layout, rest⟩
  | unnamedMacro {rest : List Char} (h : startsName rest = false) :
      Spelling none ⟨.invalid, [], ['@'], rest⟩
  | unnamedVariable {region : Option QuoteSigil} {rest : List Char} (h : startsName rest = false)
      (hb : rest.head? ≠ some '{') : Spelling region ⟨.invalid, [], ['$'], rest⟩
  | unnamedBraced {region : Option QuoteSigil} {rest : List Char} (h : startsName rest = false) :
      Spelling region ⟨.invalid, [], ['$', '{'], rest⟩
  | openBraced {region : Option QuoteSigil} {name rest : List Char} (h : IsName name)
      (hr : rest.head? ≠ some '}') : Spelling region ⟨.invalid, name, '$' :: '{' :: name, rest⟩
  | openRaw {body : List Char} (h : '\x27' ∉ body) :
      Spelling none ⟨.invalid, body, '\x27' :: body, []⟩
  | openLabel {label : List Char} (hl : '\n' ∉ label) :
      Spelling none ⟨.invalid, label, '<' :: '<' :: label, []⟩
  | blankLabel {label rest : List Char} (hl : '\n' ∉ label) (hb : isBlank label = true) :
      Spelling none ⟨.invalid, [], '<' :: '<' :: (label ++ ['\n']), rest⟩
  | openHeredoc {label body : List Char} (hl : '\n' ∉ label) (hb : isBlank label = false)
      (hn : ∀ line ∈ splitLines body, trim line ≠ trim label) :
      Spelling none ⟨.invalid, heredocText (splitLines body),
        '<' :: '<' :: (label ++ '\n' :: body), []⟩
  | openVerbatim {sigil : QuoteSigil} {text : List Char} :
      Spelling (some sigil) ⟨.invalid, unescape sigil text, text, []⟩

theorem Spelling.rest_of_endOfInput {region : Option QuoteSigil} {literal text rest : List Char}
    (h : Spelling region ⟨.endOfInput, literal, text, rest⟩) : rest = [] := by
  cases h with
  | endOfInput => rfl
  | word hk => simp at hk

theorem not_mem_takeWhile_ne {c : Char} (text : List Char) : c ∉ text.takeWhile (· != c) := by
  intro h
  simpa using List.mem_takeWhile_imp h

theorem head?_dropWhile_ne {c : Char} (text : List Char) :
    text.dropWhile (· != c) = [] ∨ (text.dropWhile (· != c)).head? = some c := by
  have h := List.head?_dropWhile_not (· != c) text
  cases hd : text.dropWhile (· != c) with
  | nil => exact Or.inl rfl
  | cons d rest =>
    rw [hd] at h
    exact Or.inr (by simpa using h)

/-- Each line ends in a newline, but for the last one of all. -/
theorem splitLines_cases {text line : List Char} {before after : List (List Char)}
    (h : splitLines text = before ++ line :: after) :
    IsLine line ∨ ('\n' ∉ line ∧ after = []) := by
  induction text generalizing before line with
  | nil => simp [splitLines] at h
  | cons c cs ih =>
    unfold splitLines at h
    split at h
    next hc =>
      cases before with
      | nil =>
        obtain ⟨rfl, -⟩ := List.cons.inj h
        exact Or.inl ⟨[], List.not_mem_nil, by rw [hc]; rfl⟩
      | cons first before => exact ih (List.cons.inj h).2
    next hc =>
      split at h
      next =>
        cases before with
        | nil =>
          obtain ⟨rfl, rfl⟩ := List.cons.inj h
          exact Or.inr ⟨by simpa using Ne.symm hc, rfl⟩
        | cons first before => simp at h
      next first lines hs =>
        cases before with
        | nil =>
          obtain ⟨rfl, rfl⟩ := List.cons.inj h
          have hf : splitLines cs = [] ++ first :: lines := hs
          rcases ih hf with ⟨body, hb, rfl⟩ | ⟨hn, ha⟩
          · exact Or.inl ⟨c :: body, by simpa [hb] using Ne.symm hc, rfl⟩
          · exact Or.inr ⟨by simpa [hn] using Ne.symm hc, ha⟩
        | cons other before =>
          obtain ⟨rfl, rfl⟩ := List.cons.inj h
          have hf : splitLines cs = (first :: before) ++ line :: after := hs
          exact ih hf

theorem isLine_of_splitLines {body line : List Char} {before after : List (List Char)}
    (h : splitLines body = before ++ line :: after) {other : List Char} (ho : other ∈ before) :
    IsLine other := by
  obtain ⟨first, between, rfl⟩ := List.append_of_mem ho
  rw [List.append_assoc, List.cons_append] at h
  rcases splitLines_cases h with hi | ⟨-, he⟩
  · exact hi
  · simp at he

theorem isName_takeWhile {text : List Char} (h : startsName text = true) :
    IsName (text.takeWhile isNamePart) := by
  refine ⟨?_, fun c hc => List.mem_takeWhile_imp hc⟩
  cases text with
  | nil => exact h
  | cons c cs =>
    have hc : isNameStart c = true := by simpa [startsName] using h
    have hp : isNamePart c = true := by
      rcases Bool.or_eq_true_iff.mp hc with ha | hl
      · simp [isNamePart, isAlphanumeric_of_isAlphabetic ha]
      · simp [isNamePart, hl]
    simpa [startsName, hp] using hc

namespace Lexeme

theorem readMacro_spelled (text : List Char) : Spelling none (readMacro text) := by
  unfold readMacro
  split
  next h => exact .macroName (isName_takeWhile h)
  next h => exact .unnamedMacro (by simpa using h)

theorem readComment_spelled (text : List Char) : Spelling none (readComment text) :=
  .comment (not_mem_takeWhile_ne text) (head?_dropWhile_ne text)

theorem readVariable_braced {name : List Char} (h : IsName name) (rest : List Char) :
    readVariable ('{' :: (name ++ '}' :: rest)) =
      ⟨.variableName, name, '$' :: '{' :: (name ++ ['}']), rest⟩ := by
  obtain ⟨hs, hp⟩ := h
  have hh : startsName (name ++ '}' :: rest) = true := by
    cases name with
    | nil => cases hs
    | cons c cs => exact hs
  have ht : (name ++ '}' :: rest).takeWhile isNamePart = name := by
    rw [List.takeWhile_append_of_pos hp, List.takeWhile_cons_of_neg (by decide), List.append_nil]
  have hd : (name ++ '}' :: rest).dropWhile isNamePart = '}' :: rest := by
    rw [List.dropWhile_append_of_pos hp, List.dropWhile_cons_of_neg (by decide)]
  simp only [readVariable, hh, if_true, ht, hd]

theorem readVariable_spelled (region : Option QuoteSigil) (text : List Char) :
    Spelling region (readVariable text) := by
  unfold readVariable
  split
  next inner =>
    split
    next h =>
      have hn := isName_takeWhile h
      dsimp only
      split
      next rest _ => exact .bracedVariable hn
      next rest hr =>
        refine .openBraced hn fun hh => ?_
        obtain ⟨after, ha⟩ := List.head?_eq_some_iff.mp hh
        exact hr after ha
    next h => exact .unnamedBraced (by simpa using h)
  next hb =>
    split
    next h => exact .variableName (isName_takeWhile h)
    next h =>
      refine .unnamedVariable (by simpa using h) fun hh => ?_
      obtain ⟨inner, hi⟩ := List.head?_eq_some_iff.mp hh
      exact hb inner hi

theorem readRaw_spelled (text : List Char) : Spelling none (readRaw text) := by
  have hn := not_mem_takeWhile_ne (c := '\x27') text
  have hd := head?_dropWhile_ne (c := '\x27') text
  unfold readRaw
  dsimp only
  split
  next => exact .openRaw hn
  next close rest h =>
    rw [h] at hd
    obtain rfl : close = '\x27' := by simpa using hd
    exact .raw hn

theorem readNumber_spelled {c : Char} (cs : List Char) (hc : c.isDigit = true) :
    Spelling none (readNumber (c :: cs)) := by
  have hn : (c :: cs).takeWhile Char.isDigit ≠ [] := by simp [hc]
  have hw : ∀ d ∈ (c :: cs).takeWhile Char.isDigit, d.isDigit = true :=
    fun d hd => List.mem_takeWhile_imp hd
  unfold readNumber
  dsimp only
  split
  next d rest _ =>
    split
    next hd =>
      refine .fraction hn (List.cons_ne_nil d _) fun e he => ?_
      rcases List.mem_append.mp he with he | he
      · exact hw e he
      rcases List.mem_cons.mp he with rfl | he
      · exact hd
      · exact List.mem_takeWhile_imp he
    next => exact .number hn hw
  next => exact .number hn hw

theorem readHeredocBody_spelled {label body : List Char} (hl : '\n' ∉ label)
    (hb : isBlank label = false) :
    Spelling none ((readHeredocBody (trim label) (splitLines body)).prepend []
      ('<' :: '<' :: (label ++ ['\n']))) := by
  have whole := List.takeWhile_append_dropWhile (p := fun line => trim line != trim label)
    (l := splitLines body)
  have hn : ∀ line ∈ (splitLines body).takeWhile fun line => trim line != trim label,
      trim line ≠ trim label := fun line h => by simpa using List.mem_takeWhile_imp h
  have hd := List.head?_dropWhile_not (fun line => trim line != trim label) (splitLines body)
  unfold readHeredocBody
  dsimp only
  split
  next h =>
    rw [h, List.append_nil] at whole
    rw [whole] at hn ⊢
    rw [flatten_splitLines]
    simpa [prepend] using Spelling.openHeredoc hl hb hn
  next last after h =>
    rw [h] at whole hd
    have ht : trim last = trim label := by simpa using hd
    have hlines : ∀ line ∈ (splitLines body).takeWhile fun line => trim line != trim label,
        IsLine line ∧ trim line ≠ trim label := by
      intro line hm
      exact ⟨isLine_of_splitLines whole.symm hm, hn line hm⟩
    have hlast : IsLine last ∨ ('\n' ∉ last ∧ after.flatten = []) := by
      rcases splitLines_cases whole.symm with hi | ⟨hi, rfl⟩
      · exact Or.inl hi
      · exact Or.inr ⟨hi, rfl⟩
    simpa [prepend] using Spelling.heredoc hl hb hlines ht hlast

theorem readHeredoc_spelled (text : List Char) : Spelling none (readHeredoc text) := by
  have hl := not_mem_takeWhile_ne (c := '\n') text
  have hd := head?_dropWhile_ne (c := '\n') text
  unfold readHeredoc
  dsimp only
  split
  next => exact .openLabel hl
  next newline body h =>
    rw [h] at hd
    obtain rfl : newline = '\n' := by simpa using hd
    split
    next hb => exact .blankLabel hl hb
    next hb => exact readHeredocBody_spelled hl (by simpa using hb)

theorem readIdentifier_spelled (keywords : Keywords) {c : Char} (cs : List Char)
    (ha : isAlphabetic c = true) (hd : isDelimiter c = false) :
    Spelling none (readIdentifier keywords (c :: cs)) := by
  have hw : (c :: cs).takeWhile (fun d => !isDelimiter d) =
      c :: cs.takeWhile fun d => !isDelimiter d := by simp [hd]
  unfold readIdentifier
  dsimp only
  rw [hw]
  refine .word (by split <;> simp) ha fun d hm => ?_
  rw [← hw] at hm
  simpa using List.mem_takeWhile_imp hm

theorem readBareWord_spelled {c : Char} {cs : List Char} (ho : Opening.of c cs.head? = .other)
    (he : endsBareWord c = false) : Spelling none (readBareWord (c :: cs)) := by
  have hw : (c :: cs).takeWhile (fun d => !endsBareWord d) =
      c :: cs.takeWhile fun d => !endsBareWord d := by simp [he]
  have hr : (c :: cs).dropWhile (fun d => !endsBareWord d) =
      cs.dropWhile fun d => !endsBareWord d := by simp [he]
  unfold readBareWord
  dsimp only
  rw [hw, hr]
  refine .bareWord (by rwa [List.takeWhile_append_dropWhile]) fun d hm => ?_
  rw [← hw] at hm
  simpa using List.mem_takeWhile_imp hm

theorem readPlain_spelled (keywords : Keywords) {text : List Char}
    (hs : ∀ c ∈ text.head?, isSpacing c = false) : Spelling none (readPlain keywords text) := by
  cases text with
  | nil => exact .endOfInput
  | cons c cs =>
    have hl : ∀ d ∈ cs.takeWhile isLayout, isLayout d = true :=
      fun d hd => List.mem_takeWhile_imp hd
    cases h : Opening.of c cs.head? <;> simp only [readPlain, h]
    case atSign => exact readMacro_spelled cs
    case numberSign => exact readComment_spelled cs
    case digit => exact readNumber_spelled cs (Opening.fits h)
    case dot =>
      obtain rfl : c = '.' := Opening.fits h
      exact .dot
    case leftBrace =>
      obtain rfl : c = '{' := Opening.fits h
      exact .leftBrace hl
    case rightBrace =>
      obtain rfl : c = '}' := Opening.fits h
      exact .rightBrace hl
    case lineEnd => exact .endOfLine (Opening.fits h) hl
    case sigil =>
      obtain rfl | rfl : c = '\x22' ∨ c = '\x60' := Opening.fits h
      · exact @Spelling.openQuote .double cs
      · exact @Spelling.openQuote .back cs
    case apostrophe => exact readRaw_spelled cs
    case dollar => exact readVariable_spelled none cs
    case heredoc => exact readHeredoc_spelled cs.tail
    case letter =>
      exact readIdentifier_spelled keywords cs (Opening.fits h)
        (Opening.not_isDelimiter_of_letter h)
    case other =>
      exact readBareWord_spelled h (Opening.not_endsBareWord_of_other h (hs c rfl))

theorem unescape_cons {sigil : QuoteSigil} {c : Char} {cs : List Char}
    (h : c = '\\' → ∀ d ∈ cs.head?, isEscapable sigil d = false) :
    unescape sigil (c :: cs) = c :: unescape sigil cs := by
  cases cs with
  | nil => simp [unescape]
  | cons d ds =>
    by_cases hc : c = '\\'
    · subst hc
      rw [unescape, if_neg (by simp [h rfl d rfl])]
    · simp [unescape, hc]

theorem eq_of_mem_head?_verbatim {sigil : QuoteSigil} {c d : Char} {cs : List Char}
    (h : d ∈ (readVerbatim sigil (c :: cs)).text.head?) : d = c := by
  obtain ⟨ds, hd⟩ := List.head?_eq_some_iff.mp h
  have whole := readVerbatim_text_append sigil (c :: cs)
  rw [hd] at whole
  exact (List.cons.inj whole).1

/-- A stretch of a quoted region is its text without escapes, and ends in front of a variable, of
the closing sigil or at the end of all. -/
theorem readVerbatim_literal (sigil : QuoteSigil) (text : List Char) :
    (readVerbatim sigil text).literal = unescape sigil (readVerbatim sigil text).text ∧
    (((readVerbatim sigil text).kind = .string ∧ ∃ c rest, (c = '$' ∨ c = sigil.char) ∧
        (readVerbatim sigil text).rest = c :: rest) ∨
      ((readVerbatim sigil text).kind = .invalid ∧ (readVerbatim sigil text).rest = [])) := by
  fun_induction readVerbatim sigil text with
  | case1 => exact ⟨rfl, Or.inr ⟨rfl, rfl⟩⟩
  | case2 c cs he ih =>
    refine ⟨?_, ih.2⟩
    simp [prepend, unescape, he, ih.1]
  | case3 c cs he ih =>
    refine ⟨?_, ih.2⟩
    have hu : unescape sigil ('\\' :: (readVerbatim sigil (c :: cs)).text) =
        '\\' :: unescape sigil (readVerbatim sigil (c :: cs)).text := by
      refine unescape_cons fun _ d hd => ?_
      obtain rfl := eq_of_mem_head?_verbatim hd
      simpa using he
    simpa [prepend, ih.1] using hu.symm
  | case4 c cs hb hc => exact ⟨rfl, Or.inl ⟨rfl, c, cs, hc, rfl⟩⟩
  | case5 c cs hb hc ih =>
    refine ⟨?_, ih.2⟩
    have hu : unescape sigil (c :: (readVerbatim sigil cs).text) =
        c :: unescape sigil (readVerbatim sigil cs).text := by
      refine unescape_cons fun h d hd => ?_
      cases cs with
      | nil => simp [readVerbatim] at hd
      | cons e es => exact absurd rfl (hb e es h)
    simpa [prepend, ih.1] using hu.symm

theorem readQuoted_spelled (sigil : QuoteSigil) (text : List Char) :
    Spelling (some sigil) (readQuoted sigil text) := by
  cases text with
  | nil => exact @Spelling.openVerbatim sigil []
  | cons c cs =>
    simp only [readQuoted]
    split
    next => exact readVariable_spelled (some sigil) cs
    next hd =>
      split
      next hs =>
        subst hs
        exact .closeQuote
      next hs =>
        obtain ⟨hl, hr⟩ := readVerbatim_literal sigil (c :: cs)
        have hn := readVerbatim_text_ne_nil cs hd hs
        generalize readVerbatim sigil (c :: cs) = lexeme at hl hr hn
        obtain ⟨kind, literal, read, rest⟩ := lexeme
        dsimp only at hl hr hn
        rcases hr with ⟨rfl, e, after, he, rfl⟩ | ⟨rfl, rfl⟩
        · rw [hl]
          exact .verbatim hn he
        · rw [hl]
          exact .openVerbatim

theorem read_spelled (keywords : Keywords) {region : Option QuoteSigil} {text : List Char}
    (hs : region = none → ∀ c ∈ text.head?, isSpacing c = false) :
    Spelling region (read keywords region text) := by
  cases region with
  | none => exact readPlain_spelled keywords (hs rfl)
  | some sigil => exact readQuoted_spelled sigil text

end Lexeme

end RequestScript
