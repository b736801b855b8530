import RequestScript.Proofs.Token.Seam

namespace RequestScript

/-- The lines of a text without the newlines between them; behind the last newline there is a line
only if there is text. -/
def linesOf (text : List Char) : List (List Char) :=
  let pieces := text.splitOn '\n'
  if pieces.getLast? = some [] then pieces.dropLast else pieces

/-- A line without one carriage return at its end. -/
def dropReturn (line : List Char) : List Char :=
  if line.getLast? = some '\r' then line.dropLast else line

/-- The lines that are more than white space, one behind the other. -/
def joinLines (lines : List (List Char)) : List Char :=
  (lines.filter fun line => trim line ≠ []).flatMap dropReturn

/-- A line without the newline that ends it. -/
def unended (line : List Char) : List Char :=
  if line.getLast? = some '\n' then line.dropLast else line

theorem unended_append_newline (body : List Char) : unended (body ++ ['\n']) = body := by
  simp [unended]

theorem unended_of_not_mem {line : List Char} (h : '\n' ∉ line) : unended line = line :=
  if_neg fun hl => h (List.mem_of_getLast? hl)

theorem unended_cons {c : Char} (hc : c ≠ '\n') (line : List Char) :
    unended (c :: line) = c :: unended line := by
  cases line with
  | nil => simp [unended, hc]
  | cons d ds =>
    unfold unended
    rw [List.getLast?_cons_cons]
    split
    · rw [List.dropLast_cons_cons]
    · rfl

theorem trim_unended (line : List Char) : trim (unended line) = trim line := by
  unfold unended
  split
  next hl =>
    obtain ⟨body, rfl⟩ := List.getLast?_eq_some_iff.mp hl
    rw [List.dropLast_concat, trim_append_whiteSpace (by decide)]
  next => rfl

theorem linesOf_newline (text : List Char) : linesOf ('\n' :: text) = [] :: linesOf text := by
  have hn := List.splitOn_ne_nil '\n' text
  have hs : ('\n' :: text).splitOn '\n' = [] :: text.splitOn '\n' := by
    simp [List.splitOn, List.splitOnP_cons_eq_if_modifyHead]
  unfold linesOf
  rw [hs]
  generalize text.splitOn '\n' = pieces at hn
  obtain ⟨piece, pieces, rfl⟩ := List.exists_cons_of_ne_nil hn
  dsimp only
  rw [List.getLast?_cons_cons, List.dropLast_cons_cons]
  split
  · rfl
  · rfl

theorem linesOf_cons {c : Char} (hc : c ≠ '\n') (text : List Char) :
    linesOf (c :: text) = match linesOf text with
      | [] => [[c]]
      | line :: lines => (c :: line) :: lines := by
  have hn := List.splitOn_ne_nil '\n' text
  have hs : (c :: text).splitOn '\n' = (text.splitOn '\n').modifyHead (List.cons c) := by
    simp [List.splitOn, List.splitOnP_cons_eq_if_modifyHead, hc]
  unfold linesOf
  rw [hs]
  generalize text.splitOn '\n' = pieces at hn
  obtain ⟨piece, pieces, rfl⟩ := List.exists_cons_of_ne_nil hn
  rw [List.modifyHead_cons]
  cases pieces with
  | nil => cases piece <;> rfl
  | cons second rest =>
    dsimp only
    rw [List.getLast?_cons_cons, List.getLast?_cons_cons]
    split
    · rfl
    · rfl

/-- The lines of a text are those that a heredoc is read by, without the newlines in these. -/
theorem map_unended_splitLines (text : List Char) :
    (splitLines text).map unended = linesOf text := by
  induction text with
  | nil => rfl
  | cons c cs ih =>
    by_cases hc : c = '\n'
    · subst hc
      rw [linesOf_newline, ← ih]
      rfl
    · rw [linesOf_cons hc, ← ih]
      simp only [splitLines, if_neg hc]
      cases splitLines cs with
      | nil => rw [List.map_nil, List.map_singleton, unended_cons hc]; rfl
      | cons line lines => rw [List.map_cons, List.map_cons, unended_cons hc]

theorem trim_eq_nil_iff (text : List Char) : trim text = [] ↔ isBlank text = true := by
  have hb : isBlank text = true ↔ text.dropWhile isWhiteSpace = [] := by
    rw [List.dropWhile_eq_nil_iff, isBlank, List.all_eq_true]
  have hh := List.head?_dropWhile_not isWhiteSpace text
  rw [hb, trim, trimEnd, trimStart, List.reverse_eq_nil_iff, List.dropWhile_eq_nil_iff]
  cases hd : text.dropWhile isWhiteSpace with
  | nil => simp
  | cons c cs =>
    rw [hd] at hh
    have hc : isWhiteSpace c = false := by simpa using hh
    refine ⟨fun hall => ?_, fun he => by cases he⟩
    have ht := hall c (by simp)
    rw [hc] at ht
    cases ht

theorem heredocText_eq_joinLines (lines : List (List Char)) :
    heredocText lines = joinLines (lines.map unended) := by
  induction lines with
  | nil => rfl
  | cons line lines ih =>
    have hb := trim_eq_nil_iff line
    unfold heredocText joinLines at ih ⊢
    rw [List.flatMap_cons, ih, List.map_cons, List.filter_cons, trim_unended]
    by_cases ht : trim line = []
    · rw [if_pos (hb.mp ht), if_neg (by simp [ht])]
      rfl
    · rw [if_neg (mt hb.mpr ht), if_pos (by simp [ht])]
      rfl

theorem flatten_of_isLine {lines : List (List Char)} (h : ∀ line ∈ lines, IsLine line) :
    lines.flatten = (lines.map unended).flatMap (· ++ ['\n']) := by
  induction lines with
  | nil => rfl
  | cons line lines ih =>
    obtain ⟨body, -, rfl⟩ := h line List.mem_cons_self
    rw [List.flatten_cons, ih fun other hm => h other (List.mem_cons_of_mem _ hm), List.map_cons,
      List.flatMap_cons, unended_append_newline]

namespace Lexeme

theorem readHeredocBody_of_open {label body : List Char}
    (h : ∀ line ∈ linesOf body, trim line ≠ label) :
    readHeredocBody label (splitLines body) = ⟨.invalid, joinLines (linesOf body), body, []⟩ := by
  rw [← map_unended_splitLines] at h ⊢
  rw [← heredocText_eq_joinLines, readHeredocBody_of_none, flatten_splitLines]
  intro line hm
  rw [← trim_unended]
  exact h _ (List.mem_map_of_mem hm)

/-- The body of a heredoc ends behind the first line that is equal to the label. -/
theorem readHeredocBody_of_closed {label body : List Char}
    (h : ∃ line ∈ linesOf body, trim line = label) :
    ∃ before line after, linesOf body = before ++ line :: after ∧
      (∀ other ∈ before, trim other ≠ label) ∧ trim line = label ∧
      (readHeredocBody label (splitLines body)).kind = .string ∧
      (readHeredocBody label (splitLines body)).literal = joinLines before ∧
      (body = before.flatMap (· ++ ['\n']) ++
          (line ++ '\n' :: (readHeredocBody label (splitLines body)).rest) ∨
        (body = before.flatMap (· ++ ['\n']) ++ line ∧
          (readHeredocBody label (splitLines body)).rest = [])) := by
  have hsome : ∃ line ∈ splitLines body, trim line = label := by
    obtain ⟨line, hm, hl⟩ := h
    rw [← map_unended_splitLines] at hm
    obtain ⟨ended, he, rfl⟩ := List.mem_map.mp hm
    exact ⟨ended, he, by rwa [trim_unended] at hl⟩
  obtain ⟨before, last, after, hs, hb, hl⟩ := exists_first_line hsome
  have hflat := flatten_of_isLine fun line hm => isLine_of_splitLines hs hm
  have hbody : body = before.flatten ++ (last ++ after.flatten) := by
    rw [← flatten_splitLines body, hs, List.flatten_append, List.flatten_cons]
  have hread : readHeredocBody label (splitLines body) = _ :=
    hs ▸ readHeredocBody_of_last hb hl after
  refine ⟨before.map unended, unended last, after.map unended, ?_, fun other ho => ?_, ?_, ?_, ?_,
    ?_⟩
  · rw [← map_unended_splitLines, hs, List.map_append, List.map_cons]
  · obtain ⟨line, hm, rfl⟩ := List.mem_map.mp ho
    rw [trim_unended]
    exact hb line hm
  · rw [trim_unended, hl]
  · rw [hread]
  · rw [hread, heredocText_eq_joinLines]
  · rw [hread, ← hflat]
    rcases splitLines_cases hs with ⟨text, -, rfl⟩ | ⟨hn, rfl⟩
    · left
      rw [unended_append_newline, hbody, List.append_assoc text]
      rfl
    · right
      rw [unended_of_not_mem hn, hbody, List.flatten_nil, List.append_nil]
      exact ⟨rfl, rfl⟩

theorem readHeredoc_of_newline {label : List Char} (hn : '\n' ∉ label) (body : List Char) :
    readHeredoc (label ++ '\n' :: body) =
      if isBlank label then ⟨.invalid, [], '<' :: '<' :: (label ++ ['\n']), body⟩
      else (readHeredocBody (trim label) (splitLines body)).prepend []
        ('<' :: '<' :: (label ++ ['\n'])) := by
  obtain ⟨ht, hd⟩ := search_append hn body
  unfold readHeredoc
  rw [ht, hd]

theorem readHeredoc_of_not_mem {text : List Char} (hn : '\n' ∉ text) :
    readHeredoc text = ⟨.invalid, text, '<' :: '<' :: text, []⟩ := by
  obtain ⟨ht, hd⟩ := search_of_not_mem hn
  unfold readHeredoc
  rw [ht, hd]

end Lexeme

namespace Scanner

theorem lexeme_of_heredoc {scanner : Scanner} {text : List Char} (hr : scanner.isQuoted = false)
    (ha : scanner.afterGap = '<' :: '<' :: text) : scanner.lexeme = Lexeme.readHeredoc text := by
  have hn : scanner.region = none := by simpa [isQuoted] using hr
  rw [lexeme, hn, ha]
  rfl

/-- Where a heredoc ends and what it stands for. Its label is the rest of the first line, and its
text is made of the lines up to the first that is equal to the label, white space around both apart:
blank lines are left out, and a line gives up one carriage return at its end. -/
theorem heredoc_ends_at_label {scanner : Scanner} {text : List Char}
    (hr : scanner.isQuoted = false) (ha : scanner.afterGap = '<' :: '<' :: text) :
    ('\n' ∉ text → scanner.token.kind = .invalid ∧
      scanner.token.literal = String.ofList text ∧ scanner.next.rest = []) ∧
    ∀ label body, text = label ++ '\n' :: body → '\n' ∉ label →
      (trim label = [] → scanner.token.kind = .invalid ∧ scanner.token.literal = "" ∧
        scanner.next.rest = body) ∧
      (trim label ≠ [] → (∃ line ∈ linesOf body, trim line = trim label) →
        ∃ before line after, linesOf body = before ++ line :: after ∧
          (∀ other ∈ before, trim other ≠ trim label) ∧ trim line = trim label ∧
          scanner.token.kind = .string ∧
          scanner.token.literal = String.ofList (joinLines before) ∧
          (body = before.flatMap (· ++ ['\n']) ++ (line ++ '\n' :: scanner.next.rest) ∨
            (body = before.flatMap (· ++ ['\n']) ++ line ∧ scanner.next.rest = []))) ∧
      (trim label ≠ [] → (∀ line ∈ linesOf body, trim line ≠ trim label) →
        scanner.token.kind = .invalid ∧
        scanner.token.literal = String.ofList (joinLines (linesOf body)) ∧
        scanner.next.rest = []) := by
  have hl := lexeme_of_heredoc hr ha
  simp only [token, next, hl]
  refine ⟨fun hn => ?_, fun label body ht hn => ?_⟩
  · rw [Lexeme.readHeredoc_of_not_mem hn]
    exact ⟨rfl, rfl, rfl⟩
  subst ht
  rw [Lexeme.readHeredoc_of_newline hn]
  refine ⟨fun hb => ?_, fun hb hc => ?_, fun hb ho => ?_⟩
  · rw [if_pos ((trim_eq_nil_iff label).mp hb)]
    exact ⟨rfl, rfl, rfl⟩
  · rw [if_neg (mt (trim_eq_nil_iff label).mpr hb)]
    obtain ⟨before, line, after, hs, hbefore, hline, hkind, hliteral, hrest⟩ :=
      Lexeme.readHeredocBody_of_closed hc
    exact ⟨before, line, after, hs, hbefore, hline, hkind, congrArg String.ofList hliteral, hrest⟩
  · rw [if_neg (mt (trim_eq_nil_iff label).mpr hb), Lexeme.readHeredocBody_of_open ho]
    exact ⟨rfl, rfl, rfl⟩

/-- A line that has the label somewhere in it does not end the text; an indented label does. -/
theorem heredoc_ends_at_label_indented :
    let scanner : Scanner :=
      ⟨.ofList [], " \t<<END \na\r\n \t\n  xEND\r\r\n\tEND\r\nz".toList, .start, none⟩
    let label := "END ".toList
    let body := "a\r\n \t\n  xEND\r\r\n\tEND\r\nz".toList
    scanner.isQuoted = false ∧ scanner.afterGap = '<' :: '<' :: (label ++ '\n' :: body) ∧
    '\n' ∉ label ∧ trim label ≠ [] ∧ (∃ line ∈ linesOf body, trim line = trim label) ∧
    scanner.token.kind = .string ∧ scanner.token.literal = "a  xEND\r" ∧
    scanner.next.rest = ['z'] := by
  intro scanner label body
  have hr : scanner.isQuoted = false := rfl
  have ha : scanner.afterGap = '<' :: '<' :: (label ++ '\n' :: body) := by decide +kernel
  have hn : '\n' ∉ label := by decide +kernel
  have hb : trim label ≠ [] := by decide +kernel
  have hc : ∃ line ∈ linesOf body, trim line = trim label := by decide +kernel
  obtain ⟨before, line, after, hs, hbefore, hline, hkind, -, -⟩ :=
    ((heredoc_ends_at_label hr ha).2 label body rfl hn).2.1 hb hc
  exact ⟨hr, ha, hn, hb, hc, hkind, by decide +kernel, by decide +kernel⟩

end Scanner

end RequestScript
