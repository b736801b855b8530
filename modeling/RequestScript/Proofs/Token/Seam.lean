import RequestScript.Proofs.Text.Search
import RequestScript.Proofs.Token.Spelling

namespace RequestScript

theorem trim_append_whiteSpace {c : Char} (hw : isWhiteSpace c = true) (line : List Char) :
    trim (line ++ [c]) = trim line := by
  have he (text : List Char) : trimEnd (text ++ [c]) = trimEnd text := by
    simp [trimEnd, hw]
  unfold trim
  by_cases hb : line.dropWhile isWhiteSpace = []
  · have hs : trimStart (line ++ [c]) = [] := by
      rw [trimStart, List.dropWhile_append, hb]
      simp [hw]
    rw [hs, trimStart, hb]
  · have hs : trimStart (line ++ [c]) = trimStart line ++ [c] :=
      (takeWhile_append_of_dropWhile hb [c]).2
    rw [hs, he]

theorem splitLines_append {line : List Char} (h : IsLine line) (rest : List Char) :
    splitLines (line ++ rest) = line :: splitLines rest := by
  obtain ⟨body, hb, rfl⟩ := h
  induction body with
  | nil => simp [splitLines]
  | cons c cs ih =>
    have hc : c ≠ '\n' := fun he => hb (by simp [he])
    have hcs : '\n' ∉ cs := fun hm => hb (List.mem_cons_of_mem c hm)
    simp only [List.cons_append, splitLines, if_neg hc, ih hcs]

theorem splitLines_flatten_append {lines : List (List Char)} (h : ∀ line ∈ lines, IsLine line)
    (rest : List Char) : splitLines (lines.flatten ++ rest) = lines ++ splitLines rest := by
  induction lines with
  | nil => rfl
  | cons line lines ih =>
    rw [List.flatten_cons, List.append_assoc, splitLines_append (h line List.mem_cons_self),
      ih fun other ho => h other (List.mem_cons_of_mem line ho), List.cons_append]

theorem startsName_seam (text behind : List Char) :
    startsName (text ++ '\n' :: behind) = startsName text := by
  cases text with
  | nil => simp [startsName, isNameStart, show isAlphabetic '\n' = false by decide]
  | cons c cs => rfl

theorem Opening.of_seam (c : Char) (text behind : List Char) :
    Opening.of c (text ++ '\n' :: behind).head? = Opening.of c text.head? := by
  cases text with
  | cons d ds => rfl
  | nil =>
    unfold Opening.of
    split
    all_goals rfl

namespace Lexeme

/-- A lexeme as it is read when a newline and more text stand behind the text that it was read from:
only what it leaves is different, or else it had left nothing and takes the newline as well, with
some layout behind it. -/
inductive Meets (behind : List Char) (lexeme : Lexeme) : Lexeme → Prop
  | apart : Meets behind lexeme { lexeme with rest := lexeme.rest ++ '\n' :: behind }
  | joined {layout rest : List Char} (hr : lexeme.rest = []) (hk : lexeme.kind ≠ .quote)
      (hl : ∀ c ∈ layout, isLayout c = true) (hb : behind = layout ++ rest) :
      Meets behind lexeme { lexeme with text := lexeme.text ++ '\n' :: layout, rest }

theorem Meets.kind_eq {behind : List Char} {lexeme long : Lexeme} (h : Meets behind lexeme long) :
    long.kind = lexeme.kind := by
  cases h with
  | apart => rfl
  | joined => rfl

theorem Meets.literal_eq {behind : List Char} {lexeme long : Lexeme}
    (h : Meets behind lexeme long) : long.literal = lexeme.literal := by
  cases h with
  | apart => rfl
  | joined => rfl

theorem isNamePart_newline : isNamePart '\n' = false := by decide

variable (text behind : List Char)

theorem readMacro_meets :
    Meets behind (readMacro text) (readMacro (text ++ '\n' :: behind)) := by
  unfold readMacro
  rw [startsName_seam, takeWhile_append_stop isNamePart_newline,
    dropWhile_append_stop isNamePart_newline]
  split
  · exact .apart
  · exact .apart

theorem readComment_meets :
    Meets behind (readComment text) (readComment (text ++ '\n' :: behind)) := by
  have hn : ('\n' != '\n') = false := rfl
  have ht := takeWhile_append_stop (p := (· != '\n')) hn text behind
  have hd := dropWhile_append_stop (p := (· != '\n')) hn text behind
  unfold readComment
  rw [ht, hd]
  exact .apart

theorem readNumber_meets :
    Meets behind (readNumber text) (readNumber (text ++ '\n' :: behind)) := by
  have hn : Char.isDigit '\n' = false := by decide
  unfold readNumber
  rw [takeWhile_append_stop hn, dropWhile_append_stop hn]
  generalize text.takeWhile Char.isDigit = whole
  generalize text.dropWhile Char.isDigit = tail
  cases tail with
  | nil => exact .apart
  | cons c cs =>
    by_cases hc : c = '.'
    · subst hc
      cases cs with
      | nil => exact .apart
      | cons d rest =>
        simp only [List.cons_append]
        by_cases hd : d.isDigit = true
        · rw [if_pos hd, if_pos hd, takeWhile_append_stop hn, dropWhile_append_stop hn]
          exact .apart
        · rw [if_neg hd, if_neg hd]
          exact .apart
    · have hne (d : Char) (rest after : List Char) : c :: after ≠ '.' :: d :: rest :=
        fun he => hc (List.cons.inj he).1
      simp only [List.cons_append]
      split
      next d rest he => exact absurd he (hne d rest cs)
      split
      next d rest he => exact absurd he (hne d rest _)
      exact .apart

theorem readLayout_meets (kind : TokenKind) (hk : kind ≠ .quote) (c : Char) :
    Meets behind (readLayout kind c text) (readLayout kind c (text ++ '\n' :: behind)) := by
  have hn : isLayout '\n' = true := by decide
  by_cases hd : text.dropWhile isLayout = []
  · have ht : text.takeWhile isLayout = text := by
      have whole := List.takeWhile_append_dropWhile (p := isLayout) (l := text)
      rwa [hd, List.append_nil] at whole
    have hl : ∀ d ∈ text, isLayout d = true := by
      rw [← ht]
      exact fun d hm => List.mem_takeWhile_imp hm
    unfold readLayout
    rw [List.takeWhile_append_of_pos hl, List.dropWhile_append_of_pos hl, List.takeWhile_cons,
      List.dropWhile_cons, if_pos hn, if_pos hn, ht, hd]
    exact .joined rfl hk (fun d hm => List.mem_takeWhile_imp hm)
      List.takeWhile_append_dropWhile.symm
  · obtain ⟨ht, hr⟩ := takeWhile_append_of_dropWhile hd ('\n' :: behind)
    unfold readLayout
    rw [ht, hr]
    exact .apart

theorem readRaw_meets (hk : (readRaw text).kind ≠ .invalid) :
    Meets behind (readRaw text) (readRaw (text ++ '\n' :: behind)) := by
  unfold readRaw at hk ⊢
  dsimp only at hk ⊢
  cases hd : text.dropWhile (· != '\x27') with
  | nil =>
    rw [hd] at hk
    exact absurd rfl hk
  | cons close rest =>
    have hne : text.dropWhile (· != '\x27') ≠ [] := by simp [hd]
    obtain ⟨ht, hr⟩ := takeWhile_append_of_dropWhile hne ('\n' :: behind)
    rw [ht, hr, hd]
    exact .apart

theorem readVariable_bare {c : Char} (hc : c ≠ '{') (cs : List Char) :
    readVariable (c :: cs) =
      if startsName (c :: cs) then
        ⟨.variableName, (c :: cs).takeWhile isNamePart, '$' :: (c :: cs).takeWhile isNamePart,
          (c :: cs).dropWhile isNamePart⟩
      else ⟨.invalid, [], ['$'], c :: cs⟩ := by
  unfold readVariable
  split
  next he => exact absurd (List.cons.inj he).1 hc
  next => rfl

theorem readVariable_braced_meets (inner : List Char) : Meets behind (readVariable ('{' :: inner))
    (readVariable ('{' :: inner ++ '\n' :: behind)) := by
  simp only [readVariable, List.cons_append]
  rw [startsName_seam, takeWhile_append_stop isNamePart_newline,
    dropWhile_append_stop isNamePart_newline]
  split
  next =>
    generalize inner.dropWhile isNamePart = tail
    cases tail with
    | nil => exact .apart
    | cons d rest =>
      by_cases hd : d = '}'
      · subst hd
        exact .apart
      · have hne (after later : List Char) : d :: after ≠ '}' :: later :=
          fun he => hd (List.cons.inj he).1
        simp only [List.cons_append]
        split
        next later he => exact absurd he (hne rest later)
        split
        next later he => exact absurd he (hne _ later)
        exact .apart
  next => exact .apart

theorem readVariable_meets :
    Meets behind (readVariable text) (readVariable (text ++ '\n' :: behind)) := by
  cases text with
  | nil => exact .apart
  | cons c inner =>
    by_cases hc : c = '{'
    · subst hc
      exact readVariable_braced_meets behind inner
    · have hs := startsName_seam (c :: inner) behind
      have ht := takeWhile_append_stop isNamePart_newline (c :: inner) behind
      have hd := dropWhile_append_stop isNamePart_newline (c :: inner) behind
      rw [List.cons_append] at hs ht hd ⊢
      rw [readVariable_bare hc, readVariable_bare hc, hs, ht, hd]
      split
      · exact .apart
      · exact .apart

theorem readIdentifier_meets (keywords : Keywords) :
    Meets behind (readIdentifier keywords text)
      (readIdentifier keywords (text ++ '\n' :: behind)) := by
  have hn : (!isDelimiter '\n') = false := by decide
  have ht := takeWhile_append_stop (p := fun c => !isDelimiter c) hn text behind
  have hd := dropWhile_append_stop (p := fun c => !isDelimiter c) hn text behind
  unfold readIdentifier
  rw [ht, hd]
  exact .apart

theorem readBareWord_meets :
    Meets behind (readBareWord text) (readBareWord (text ++ '\n' :: behind)) := by
  have hn : (!endsBareWord '\n') = false := by decide
  have ht := takeWhile_append_stop (p := fun c => !endsBareWord c) hn text behind
  have hd := dropWhile_append_stop (p := fun c => !endsBareWord c) hn text behind
  unfold readBareWord
  rw [ht, hd]
  exact .apart

/-- A heredoc ends with the first line that is equal to its label. -/
theorem readHeredocBody_of_last {label last : List Char} {before : List (List Char)}
    (hb : ∀ line ∈ before, trim line ≠ label) (hl : trim last = label)
    (after : List (List Char)) : readHeredocBody label (before ++ last :: after) =
      ⟨.string, heredocText before, before.flatten ++ last, after.flatten⟩ := by
  have hp : ∀ line ∈ before, (trim line != label) = true := fun line hm => by simp [hb line hm]
  have hs : (trim last != label) = false := by simp [hl]
  unfold readHeredocBody
  rw [List.takeWhile_append_of_pos hp, List.dropWhile_append_of_pos hp, List.takeWhile_cons,
    List.dropWhile_cons, hs]
  simp only [Bool.false_eq_true, if_false, List.append_nil]

theorem readHeredocBody_of_none {label : List Char} {lines : List (List Char)}
    (h : ∀ line ∈ lines, trim line ≠ label) :
    readHeredocBody label lines = ⟨.invalid, heredocText lines, lines.flatten, []⟩ := by
  have hp : ∀ line ∈ lines, (trim line != label) = true := fun line hm => by simp [h line hm]
  unfold readHeredocBody
  rw [List.takeWhile_eq_self_iff.mpr hp, List.dropWhile_eq_nil_iff.mpr hp]

theorem exists_first_line {label : List Char} {lines : List (List Char)}
    (h : ∃ line ∈ lines, trim line = label) :
    ∃ before last after, lines = before ++ last :: after ∧
      (∀ line ∈ before, trim line ≠ label) ∧ trim last = label := by
  obtain ⟨line, hm, hl⟩ := h
  have hsome : (lines.find? fun line => trim line == label).isSome = true :=
    List.find?_isSome.mpr ⟨line, hm, beq_iff_eq.mpr hl⟩
  obtain ⟨last, hlast⟩ := Option.isSome_iff_exists.mp hsome
  obtain ⟨hl, before, after, hs, hb⟩ := List.find?_eq_some_iff_append.mp hlast
  exact ⟨before, last, after, hs, fun line hm => by simpa using hb line hm, beq_iff_eq.mp hl⟩

theorem readHeredocBody_meets {label body : List Char}
    (hk : (readHeredocBody label (splitLines body)).kind ≠ .invalid) :
    Meets behind (readHeredocBody label (splitLines body))
      (readHeredocBody label (splitLines (body ++ '\n' :: behind))) := by
  have hsome : ∃ line ∈ splitLines body, trim line = label := by
    by_contra hn
    rw [readHeredocBody_of_none fun line hm hl => hn ⟨line, hm, hl⟩] at hk
    exact hk rfl
  obtain ⟨before, last, after, hs, hb, hl⟩ := exists_first_line hsome
  have hlines : ∀ line ∈ before, IsLine line := fun line hm => isLine_of_splitLines hs hm
  have hbody : body = before.flatten ++ (last ++ after.flatten) := by
    rw [← flatten_splitLines body, hs, List.flatten_append, List.flatten_cons]
  rw [hs, readHeredocBody_of_last hb hl, hbody, List.append_assoc,
    splitLines_flatten_append hlines]
  rcases splitLines_cases hs with hi | ⟨hn, rfl⟩
  · rw [List.append_assoc, splitLines_append hi, readHeredocBody_of_last hb hl,
      flatten_splitLines]
    exact .apart
  · -- the last line takes the newline, which does not change what it is equal to
    have hi : IsLine (last ++ ['\n']) := ⟨last, hn, rfl⟩
    have ht : trim (last ++ ['\n']) = label := by
      rw [trim_append_whiteSpace (by decide), hl]
    have hj : last ++ ([] : List (List Char)).flatten ++ '\n' :: behind =
        (last ++ ['\n']) ++ behind := by simp
    rw [hj, splitLines_append hi, readHeredocBody_of_last hb ht, flatten_splitLines,
      ← List.append_assoc]
    exact .joined rfl (fun he => by cases he) (fun c hc => by cases hc) rfl

theorem Meets.prepend {lexeme long : Lexeme} {behind : List Char} (h : Meets behind lexeme long)
    (literal text : List Char) :
    Meets behind (lexeme.prepend literal text) (long.prepend literal text) := by
  cases h with
  | apart => exact .apart
  | joined hr hk hl hb =>
    have hj := @Meets.joined behind (lexeme.prepend literal text) _ _ hr hk hl hb
    rwa [show (lexeme.prepend literal text).text ++ '\n' :: _ =
      text ++ (lexeme.text ++ '\n' :: _) from List.append_assoc _ _ _] at hj

theorem readHeredoc_meets (hk : (readHeredoc text).kind ≠ .invalid) :
    Meets behind (readHeredoc text) (readHeredoc (text ++ '\n' :: behind)) := by
  unfold readHeredoc at hk ⊢
  dsimp only at hk ⊢
  cases hd : text.dropWhile (· != '\n') with
  | nil =>
    rw [hd] at hk
    exact absurd rfl hk
  | cons newline body =>
    have hne : text.dropWhile (· != '\n') ≠ [] := by simp [hd]
    obtain ⟨ht, hr⟩ := takeWhile_append_of_dropWhile hne ('\n' :: behind)
    rw [hd] at hk
    rw [ht, hr, hd]
    simp only [List.cons_append] at hk ⊢
    split
    next => exact .apart
    next hb =>
      rw [if_neg hb] at hk
      exact (readHeredocBody_meets behind hk).prepend _ _

/-- What follows a lexeme outside a quoted region joins it at most by a newline and layout. -/
theorem readPlain_meets (keywords : Keywords) {text : List Char} (hn : text ≠ [])
    (hk : (readPlain keywords text).kind ≠ .invalid) (behind : List Char) :
    Meets behind (readPlain keywords text) (readPlain keywords (text ++ '\n' :: behind)) := by
  obtain ⟨c, cs, rfl⟩ := List.exists_cons_of_ne_nil hn
  have ho := Opening.of_seam c cs behind
  rw [List.cons_append]
  cases h : Opening.of c cs.head? <;> simp only [readPlain, ho, h] at hk ⊢
  case atSign => exact readMacro_meets cs behind
  case numberSign => exact readComment_meets cs behind
  case digit => exact readNumber_meets (c :: cs) behind
  case dot | sigil => exact .apart
  case leftBrace | rightBrace | lineEnd =>
    exact readLayout_meets cs behind _ (fun he => by cases he) c
  case apostrophe => exact readRaw_meets cs behind hk
  case dollar => exact readVariable_meets cs behind
  case heredoc =>
    obtain ⟨-, hs⟩ : c = '<' ∧ cs.head? = some '<' := Opening.fits h
    obtain ⟨rest, rfl⟩ := List.head?_eq_some_iff.mp hs
    exact readHeredoc_meets rest behind hk
  case letter => exact readIdentifier_meets (c :: cs) behind keywords
  case other => exact readBareWord_meets (c :: cs) behind

theorem readVerbatim_cons {sigil : QuoteSigil} {c : Char} (hc : c ≠ '\\') (cs : List Char) :
    readVerbatim sigil (c :: cs) =
      if c = '$' ∨ c = sigil.char then ⟨.string, [], [], c :: cs⟩
      else (readVerbatim sigil cs).prepend [c] [c] := by
  cases cs with
  | nil => simp [readVerbatim]
  | cons d ds => simp [readVerbatim, hc]

/-- A stretch of a quoted region that ends inside a text does not see what stands behind it. -/
theorem readVerbatim_append {sigil : QuoteSigil} {text : List Char}
    (hk : (readVerbatim sigil text).kind ≠ .invalid) (behind : List Char) :
    readVerbatim sigil (text ++ behind) =
      { readVerbatim sigil text with rest := (readVerbatim sigil text).rest ++ behind } := by
  fun_induction readVerbatim sigil text with
  | case1 => exact absurd rfl hk
  | case2 c cs he ih => simp only [List.cons_append, readVerbatim, if_pos he, ih hk, prepend]
  | case3 c cs he ih =>
    have hi := ih hk
    rw [List.cons_append] at hi
    simp only [List.cons_append, readVerbatim, if_neg he, hi, prepend]
  | case4 c cs hb hc =>
    have hn : c ≠ '\\' := by
      rcases hc with rfl | rfl
      · decide
      · cases sigil <;> decide
    rw [List.cons_append, readVerbatim_cons hn, if_pos hc]
  | case5 c cs hb hc ih =>
    have hn : c ≠ '\\' := by
      intro he
      cases cs with
      | nil => exact hk rfl
      | cons d ds => exact hb d ds he rfl
    rw [List.cons_append, readVerbatim_cons hn, if_neg hc, ih hk]
    rfl

theorem readQuoted_meets {sigil : QuoteSigil} {text : List Char} (hn : text ≠ [])
    (hk : (readQuoted sigil text).kind ≠ .invalid) (behind : List Char) :
    Meets behind (readQuoted sigil text) (readQuoted sigil (text ++ '\n' :: behind)) := by
  obtain ⟨c, cs, rfl⟩ := List.exists_cons_of_ne_nil hn
  simp only [List.cons_append, readQuoted] at hk ⊢
  split
  next => exact readVariable_meets cs behind
  next hd =>
    rw [if_neg hd] at hk
    split
    next => exact .apart
    next hs =>
      rw [if_neg hs] at hk
      have hv := readVerbatim_append hk ('\n' :: behind)
      rw [List.cons_append] at hv
      rw [hv]
      exact .apart

theorem read_meets (keywords : Keywords) (region : Option QuoteSigil) {text : List Char}
    (hn : text ≠ []) (hk : (read keywords region text).kind ≠ .invalid) (behind : List Char) :
    Meets behind (read keywords region text) (read keywords region (text ++ '\n' :: behind)) := by
  cases region with
  | none => exact readPlain_meets keywords hn hk behind
  | some sigil => exact readQuoted_meets hn hk behind

end Lexeme

end RequestScript
