import RequestScript.Proofs.Token.Heredoc
import RequestScript.Proofs.Token.Progress

namespace RequestScript

/-- A text with a carriage return in front of each newline. -/
def withReturns (text : List Char) : List Char :=
  text.flatMap fun c => if c = '\n' then ['\r', '\n'] else [c]

theorem withReturns_newline (text : List Char) :
    withReturns ('\n' :: text) = '\r' :: '\n' :: withReturns text := rfl

theorem withReturns_cons {c : Char} (hc : c ≠ '\n') (text : List Char) :
    withReturns (c :: text) = c :: withReturns text := by
  simp [withReturns, hc]

theorem withReturns_append (a b : List Char) :
    withReturns (a ++ b) = withReturns a ++ withReturns b :=
  List.flatMap_append

theorem withReturns_of_not_mem {text : List Char} (h : '\n' ∉ text) : withReturns text = text := by
  induction text with
  | nil => rfl
  | cons c cs ih =>
    have hc : c ≠ '\n' := fun he => h (by simp [he])
    rw [withReturns_cons hc, ih fun hm => h (List.mem_cons_of_mem c hm)]

theorem eq_cons_of_withReturns {c : Char} {text rest : List Char} (h : withReturns text = c :: rest)
    (hc : c ≠ '\r') : ∃ tail, text = c :: tail ∧ withReturns tail = rest := by
  cases text with
  | nil => cases h
  | cons d ds =>
    by_cases hd : d = '\n'
    · subst hd
      rw [withReturns_newline] at h
      exact absurd (List.cons.inj h).1.symm hc
    · rw [withReturns_cons hd] at h
      obtain ⟨rfl, rfl⟩ := List.cons.inj h
      exact ⟨ds, rfl, rfl⟩

theorem count_withReturns (text : List Char) :
    (withReturns text).count '\n' = text.count '\n' := by
  induction text with
  | nil => rfl
  | cons c cs ih =>
    by_cases hc : c = '\n'
    · subst hc
      rw [withReturns_newline, List.count_cons_of_ne (by decide), List.count_cons_self,
        List.count_cons_self, ih]
    · rw [withReturns_cons hc, List.count_cons_of_ne hc, List.count_cons_of_ne hc, ih]

section Search

variable {p : Char → Bool}

theorem takeWhile_withReturns (hr : p '\r' = false) (hn : p '\n' = false) (text : List Char) :
    (withReturns text).takeWhile p = text.takeWhile p := by
  induction text with
  | nil => rfl
  | cons c cs ih =>
    by_cases hc : c = '\n'
    · subst hc
      simp [withReturns_newline, hr, hn]
    · rw [withReturns_cons hc, List.takeWhile_cons, List.takeWhile_cons, ih]

/-- A search that treats both characters of a line end alike stops at the same place. -/
theorem dropWhile_withReturns (h : p '\r' = p '\n') (text : List Char) :
    (withReturns text).dropWhile p = withReturns (text.dropWhile p) := by
  induction text with
  | nil => rfl
  | cons c cs ih =>
    by_cases hc : c = '\n'
    · subst hc
      rw [withReturns_newline, List.dropWhile_cons, List.dropWhile_cons, List.dropWhile_cons, h, ih]
      split
      · rfl
      · rw [withReturns_newline]
    · rw [withReturns_cons hc, List.dropWhile_cons, List.dropWhile_cons, ih]
      split
      · rfl
      · rw [withReturns_cons hc]

end Search

theorem startsName_withReturns (text : List Char) :
    startsName (withReturns text) = startsName text := by
  cases text with
  | nil => rfl
  | cons c cs =>
    by_cases hc : c = '\n'
    · subst hc
      have hr : isNameStart '\r' = false := by decide
      have hn : isNameStart '\n' = false := by decide
      rw [withReturns_newline, startsName, startsName, List.head?_cons, List.head?_cons]
      simp only [Option.any_some, hr, hn]
    · rw [withReturns_cons hc]
      rfl

theorem Opening.of_withReturns (c : Char) (text : List Char) :
    Opening.of c (withReturns text).head? = Opening.of c text.head? := by
  cases text with
  | nil => rfl
  | cons d ds =>
    by_cases hd : d = '\n'
    · subst hd
      rw [withReturns_newline, List.head?_cons, List.head?_cons]
      unfold Opening.of
      split
      all_goals rfl
    · rw [withReturns_cons hd]
      rfl

theorem splitLines_withReturns (text : List Char) :
    splitLines (withReturns text) = (splitLines text).map withReturns := by
  induction text with
  | nil => rfl
  | cons c cs ih =>
    by_cases hc : c = '\n'
    · subst hc
      have hr : '\r' ≠ '\n' := by decide
      simp only [withReturns_newline, splitLines, if_neg hr, if_true, ih, List.map_cons]
      rfl
    · simp only [withReturns_cons hc, splitLines, if_neg hc, ih]
      cases splitLines cs with
      | nil => rw [List.map_nil, List.map_singleton, withReturns_cons hc]; rfl
      | cons line lines => simp only [List.map_cons, withReturns_cons hc]

theorem flatten_map_withReturns (lines : List (List Char)) :
    (lines.map withReturns).flatten = withReturns lines.flatten := by
  induction lines with
  | nil => rfl
  | cons line lines ih =>
    rw [List.map_cons, List.flatten_cons, List.flatten_cons, ih, withReturns_append]

/-- A line of a text without carriage returns. -/
def IsPlainLine (line : List Char) : Prop :=
  '\r' ∉ line ∧ (IsLine line ∨ '\n' ∉ line)

theorem isPlainLine_of_mem {text line : List Char} (h : '\r' ∉ text) (hm : line ∈ splitLines text) :
    IsPlainLine line := by
  refine ⟨fun hr => h ?_, ?_⟩
  · rw [← flatten_splitLines text]
    exact List.mem_flatten_of_mem hm hr
  · obtain ⟨before, after, hs⟩ := List.append_of_mem hm
    exact (splitLines_cases hs).imp id And.left

namespace IsPlainLine

variable {line : List Char}

theorem trim_withReturns (h : IsPlainLine line) : trim (withReturns line) = trim line := by
  rcases h.2 with ⟨body, hb, rfl⟩ | hn
  · have hw : withReturns (body ++ ['\n']) = body ++ ['\r'] ++ ['\n'] := by
      rw [withReturns_append, withReturns_of_not_mem hb, List.append_assoc]
      rfl
    rw [hw, trim_append_whiteSpace (by decide), trim_append_whiteSpace (by decide),
      trim_append_whiteSpace (by decide)]
  · rw [withReturns_of_not_mem hn]

theorem stripLineEnd_withReturns (h : IsPlainLine line) :
    stripLineEnd (withReturns line) = stripLineEnd line := by
  rcases h.2 with ⟨body, hb, rfl⟩ | hn
  · have hw : withReturns (body ++ ['\n']) = body ++ ['\r'] ++ ['\n'] := by
      rw [withReturns_append, withReturns_of_not_mem hb, List.append_assoc]
      rfl
    have hl : body.getLast? ≠ some '\r' := fun hl =>
      h.1 (List.mem_append_left _ (List.mem_of_getLast? hl))
    rw [hw]
    simp [stripLineEnd, hl]
  · rw [withReturns_of_not_mem hn]

theorem isBlank_withReturns (h : IsPlainLine line) :
    isBlank (withReturns line) = isBlank line := by
  rw [Bool.eq_iff_iff, ← trim_eq_nil_iff, ← trim_eq_nil_iff, h.trim_withReturns]

end IsPlainLine

theorem heredocText_withReturns {lines : List (List Char)} (h : ∀ line ∈ lines, IsPlainLine line) :
    heredocText (lines.map withReturns) = heredocText lines := by
  induction lines with
  | nil => rfl
  | cons line lines ih =>
    have hl := h line List.mem_cons_self
    unfold heredocText at ih ⊢
    rw [List.map_cons, List.flatMap_cons, List.flatMap_cons, hl.isBlank_withReturns,
      hl.stripLineEnd_withReturns, ih fun other hm => h other (List.mem_cons_of_mem _ hm)]

namespace Lexeme

/-- A lexeme as it is read with carriage returns in front of all newlines: the text that it takes
may have more of them, and what it leaves has them. -/
inductive Widens (lexeme : Lexeme) : Lexeme → Prop
  | intro {text : List Char} (h : lexeme.kind = .quote → text = lexeme.text) :
      Widens lexeme { lexeme with text, rest := withReturns lexeme.rest }

theorem Widens.prepend {lexeme wide : Lexeme} (h : Widens lexeme wide) (hk : lexeme.kind ≠ .quote)
    (literal text long : List Char) :
    Widens (lexeme.prepend literal text) (wide.prepend literal long) := by
  cases h with
  | intro => exact .intro fun he => absurd he hk

theorem readMacro_widens (text : List Char) :
    Widens (readMacro text) (readMacro (withReturns text)) := by
  unfold readMacro
  rw [startsName_withReturns, takeWhile_withReturns (by decide) (by decide),
    dropWhile_withReturns (by decide)]
  split
  · exact .intro nofun
  · exact .intro nofun

theorem readNumber_of_fraction {text rest : List Char} {d : Char}
    (ht : text.dropWhile Char.isDigit = '.' :: d :: rest) (hd : d.isDigit = true) :
    readNumber text =
      ⟨.number, text.takeWhile Char.isDigit ++ '.' :: d :: rest.takeWhile Char.isDigit,
        text.takeWhile Char.isDigit ++ '.' :: d :: rest.takeWhile Char.isDigit,
        rest.dropWhile Char.isDigit⟩ := by
  unfold readNumber
  rw [ht]
  exact if_pos hd

theorem readNumber_of_whole {text : List Char}
    (h : ∀ d rest, text.dropWhile Char.isDigit = '.' :: d :: rest → d.isDigit = false) :
    readNumber text = ⟨.number, text.takeWhile Char.isDigit, text.takeWhile Char.isDigit,
      text.dropWhile Char.isDigit⟩ := by
  unfold readNumber
  dsimp only
  split
  next d rest ht => rw [if_neg (by simp [h d rest ht]), ht]
  next => rfl

theorem readNumber_widens (text : List Char) :
    Widens (readNumber text) (readNumber (withReturns text)) := by
  have ht : (withReturns text).takeWhile Char.isDigit = text.takeWhile Char.isDigit :=
    takeWhile_withReturns (by decide) (by decide) text
  have hd : (withReturns text).dropWhile Char.isDigit = withReturns (text.dropWhile Char.isDigit) :=
    dropWhile_withReturns (by decide) text
  by_cases hf : ∃ d rest, text.dropWhile Char.isDigit = '.' :: d :: rest ∧ d.isDigit = true
  · obtain ⟨d, rest, hs, hdigit⟩ := hf
    have hn : d ≠ '\n' := fun he => by
      rw [he] at hdigit
      cases hdigit
    rw [hs, withReturns_cons (by decide), withReturns_cons hn] at hd
    rw [readNumber_of_fraction hs hdigit, readNumber_of_fraction hd hdigit, ht,
      takeWhile_withReturns (by decide) (by decide), dropWhile_withReturns (by decide)]
    exact .intro nofun
  · have hw : ∀ d rest, text.dropWhile Char.isDigit = '.' :: d :: rest → d.isDigit = false :=
      fun d rest hs => by simpa using fun hdigit => hf ⟨d, rest, hs, hdigit⟩
    -- a newline behind the point has become a carriage return, which is no digit either
    have hwide : ∀ d rest, (withReturns text).dropWhile Char.isDigit = '.' :: d :: rest →
        d.isDigit = false := by
      intro d rest hs
      rw [hd] at hs
      obtain ⟨tail, htail, hrest⟩ := eq_cons_of_withReturns hs (by decide)
      by_cases hr : d = '\r'
      · rw [hr]
        rfl
      · obtain ⟨after, rfl, -⟩ := eq_cons_of_withReturns hrest hr
        exact hw d after htail
    rw [readNumber_of_whole hw, readNumber_of_whole hwide, ht, hd]
    exact .intro nofun

theorem readLayout_widens {kind : TokenKind} (hk : kind ≠ .quote) (c : Char) (text : List Char) :
    Widens (readLayout kind c text) (readLayout kind c (withReturns text)) := by
  unfold readLayout
  rw [dropWhile_withReturns (by decide)]
  exact .intro fun he => absurd he hk

theorem readRaw_widens {text : List Char} (h : '\n' ∉ (readRaw text).literal) :
    Widens (readRaw text) (readRaw (withReturns text)) := by
  by_cases hq : '\x27' ∈ text
  · obtain ⟨body, rest, rfl, hb⟩ := List.eq_append_cons_of_mem hq
    obtain ⟨ht, hd⟩ := search_append hb rest
    obtain ⟨hwt, hwd⟩ := search_append hb (withReturns rest)
    unfold readRaw at h ⊢
    rw [hd, ht] at h ⊢
    rw [withReturns_append, withReturns_of_not_mem h, withReturns_cons (by decide), hwd, hwt]
    exact .intro nofun
  · obtain ⟨ht, hd⟩ := search_of_not_mem hq
    have hr : readRaw text = ⟨.invalid, text, '\x27' :: text, []⟩ := by
      unfold readRaw
      rw [hd, ht]
    rw [hr] at h ⊢
    rw [withReturns_of_not_mem h, hr]
    exact .intro nofun

theorem readVariable_widens (text : List Char) :
    Widens (readVariable text) (readVariable (withReturns text)) := by
  have ht (inner : List Char) :
      (withReturns inner).takeWhile isNamePart = inner.takeWhile isNamePart :=
    takeWhile_withReturns (by decide) (by decide) inner
  have hd (inner : List Char) :
      (withReturns inner).dropWhile isNamePart = withReturns (inner.dropWhile isNamePart) :=
    dropWhile_withReturns (by decide) inner
  by_cases hc : text.head? = some '{'
  · obtain ⟨inner, rfl⟩ := List.head?_eq_some_iff.mp hc
    rw [withReturns_cons (by decide)]
    simp only [readVariable, startsName_withReturns, ht, hd]
    generalize inner.dropWhile isNamePart = tail
    split
    next =>
      by_cases hb : tail.head? = some '}'
      · obtain ⟨rest, rfl⟩ := List.head?_eq_some_iff.mp hb
        rw [withReturns_cons (by decide)]
        exact .intro fun he => (by cases he)
      · split
        next rest => exact absurd rfl hb
        split
        next rest he =>
          obtain ⟨after, rfl, -⟩ := eq_cons_of_withReturns he (by decide)
          exact absurd rfl hb
        exact .intro fun he => (by cases he)
    next => exact .intro fun he => (by cases he)
  · have bare {text : List Char} (hc : text.head? ≠ some '{') : readVariable text =
        if startsName text then ⟨.variableName, text.takeWhile isNamePart,
          '$' :: text.takeWhile isNamePart, text.dropWhile isNamePart⟩
        else ⟨.invalid, [], ['$'], text⟩ := by
      cases text with
      | nil => rfl
      | cons c cs => exact readVariable_bare (fun he => hc (by rw [he]; rfl)) cs
    have hw : (withReturns text).head? ≠ some '{' := by
      intro hh
      obtain ⟨rest, hrest⟩ := List.head?_eq_some_iff.mp hh
      obtain ⟨after, rfl, -⟩ := eq_cons_of_withReturns hrest (by decide)
      exact hc rfl
    rw [bare hc, bare hw, startsName_withReturns, ht, hd]
    split
    · exact .intro fun he => (by cases he)
    · exact .intro fun he => (by cases he)

theorem readHeredocBody_widens {label : List Char} {lines : List (List Char)}
    (h : ∀ line ∈ lines, IsPlainLine line) :
    Widens (readHeredocBody label lines) (readHeredocBody label (lines.map withReturns)) := by
  by_cases hc : ∃ line ∈ lines, trim line = label
  · obtain ⟨before, last, after, rfl, hb, hl⟩ := exists_first_line hc
    have hplain : ∀ line ∈ before, IsPlainLine line := fun line hm =>
      h line (List.mem_append_left _ hm)
    have hbw : ∀ line ∈ before.map withReturns, trim line ≠ label := by
      intro line hm
      obtain ⟨source, hs, rfl⟩ := List.mem_map.mp hm
      rw [(hplain source hs).trim_withReturns]
      exact hb source hs
    have hlw : trim (withReturns last) = label := by
      rw [(h last (by simp)).trim_withReturns, hl]
    rw [List.map_append, List.map_cons, readHeredocBody_of_last hb hl,
      readHeredocBody_of_last hbw hlw, heredocText_withReturns hplain,
      flatten_map_withReturns after]
    exact .intro nofun
  · have hn : ∀ line ∈ lines, trim line ≠ label := fun line hm hl => hc ⟨line, hm, hl⟩
    have hnw : ∀ line ∈ lines.map withReturns, trim line ≠ label := by
      intro line hm
      obtain ⟨source, hs, rfl⟩ := List.mem_map.mp hm
      rw [(h source hs).trim_withReturns]
      exact hn source hs
    rw [readHeredocBody_of_none hn, readHeredocBody_of_none hnw, heredocText_withReturns h]
    exact .intro nofun

theorem readHeredocBody_kind_ne_quote (label : List Char) (lines : List (List Char)) :
    (readHeredocBody label lines).kind ≠ .quote := by
  unfold readHeredocBody
  dsimp only
  split
  · exact nofun
  · exact nofun

theorem readHeredoc_widens {text : List Char} (h : '\r' ∉ text) :
    Widens (readHeredoc text) (readHeredoc (withReturns text)) := by
  by_cases hn : '\n' ∈ text
  · obtain ⟨label, body, rfl, hl⟩ := List.eq_append_cons_of_mem hn
    have hw : withReturns (label ++ '\n' :: body) =
        (label ++ ['\r']) ++ '\n' :: withReturns body := by
      rw [withReturns_append, withReturns_of_not_mem hl, withReturns_newline, List.append_assoc]
      rfl
    have hlw : '\n' ∉ label ++ ['\r'] := by simpa using hl
    have hb : isBlank (label ++ ['\r']) = isBlank label := by
      rw [Bool.eq_iff_iff, ← trim_eq_nil_iff, ← trim_eq_nil_iff,
        trim_append_whiteSpace (by decide)]
    rw [hw, readHeredoc_of_newline hl, readHeredoc_of_newline hlw, hb,
      trim_append_whiteSpace (by decide), splitLines_withReturns]
    split
    · exact .intro nofun
    · have hbody : '\r' ∉ body := fun hm => h (List.mem_append_right _ (List.mem_cons_of_mem _ hm))
      exact (readHeredocBody_widens fun line hm => isPlainLine_of_mem hbody hm).prepend
        (readHeredocBody_kind_ne_quote _ _) _ _ _
  · rw [withReturns_of_not_mem hn, readHeredoc_of_not_mem hn]
    exact .intro nofun

theorem readIdentifier_widens (keywords : Keywords) (text : List Char) :
    Widens (readIdentifier keywords text) (readIdentifier keywords (withReturns text)) := by
  unfold readIdentifier
  rw [takeWhile_withReturns (by decide) (by decide), dropWhile_withReturns (by decide)]
  refine .intro fun he => ?_
  dsimp only at he
  split at he
  · cases he
  · cases he

theorem readBareWord_widens (text : List Char) :
    Widens (readBareWord text) (readBareWord (withReturns text)) := by
  unfold readBareWord
  rw [takeWhile_withReturns (by decide) (by decide), dropWhile_withReturns (by decide)]
  exact .intro nofun

theorem readVerbatim_kind_ne_quote (sigil : QuoteSigil) (text : List Char) :
    (readVerbatim sigil text).kind ≠ .quote := by
  rcases (readVerbatim_literal sigil text).2 with ⟨hk, -⟩ | ⟨hk, -⟩
  · rw [hk]
    exact nofun
  · rw [hk]
    exact nofun

theorem newline_mem_readVerbatim (sigil : QuoteSigil) (text : List Char) :
    '\n' ∈ (readVerbatim sigil ('\n' :: text)).literal := by
  have hs : ¬('\n' = '$' ∨ '\n' = sigil.char) := by cases sigil <;> decide
  rw [readVerbatim_cons (by decide), if_neg hs]
  exact List.mem_cons_self

theorem readVerbatim_widens {sigil : QuoteSigil} {text : List Char}
    (h : '\n' ∉ (readVerbatim sigil text).literal) :
    Widens (readVerbatim sigil text) (readVerbatim sigil (withReturns text)) := by
  fun_induction readVerbatim sigil text with
  | case1 => exact .intro fun he => (by cases he)
  | case2 c cs he ih =>
    have hc : c ≠ '\n' := by
      rintro rfl
      cases sigil <;> cases he
    have hi := ih fun hm => h (List.mem_cons_of_mem c hm)
    rw [withReturns_cons (by decide), withReturns_cons hc, readVerbatim, if_pos he]
    exact hi.prepend (readVerbatim_kind_ne_quote _ _) _ _ _
  | case3 c cs he ih =>
    have hl : '\n' ∉ (readVerbatim sigil (c :: cs)).literal :=
      fun hm => h (List.mem_cons_of_mem _ hm)
    have hc : c ≠ '\n' := by
      rintro rfl
      exact hl (newline_mem_readVerbatim sigil cs)
    have hi := ih hl
    rw [withReturns_cons hc] at hi
    rw [withReturns_cons (by decide), withReturns_cons hc, readVerbatim, if_neg he]
    exact hi.prepend (readVerbatim_kind_ne_quote _ _) _ _ _
  | case4 c cs hb hc =>
    have hn : c ≠ '\\' ∧ c ≠ '\n' := by
      rcases hc with rfl | rfl
      · decide
      · cases sigil <;> decide
    have hw := withReturns_cons hn.2 cs
    rw [hw, readVerbatim_cons hn.1, if_pos hc, ← hw]
    exact .intro fun he => (by cases he)
  | case5 c cs hb hc ih =>
    have hn : c ≠ '\n' := fun he => h (he ▸ List.mem_cons_self)
    have hi := ih fun hm => h (List.mem_cons_of_mem c hm)
    rw [withReturns_cons hn]
    by_cases hs : c = '\\'
    · cases cs with
      | nil =>
        have hq : readVerbatim sigil ['\\'] = (readVerbatim sigil []).prepend ['\\'] ['\\'] := by
          cases sigil <;> rfl
        rw [hs, show withReturns [] = [] from rfl, hq]
        exact .intro fun he => (by cases he)
      | cons d ds => exact absurd rfl (hb d ds hs)
    · rw [readVerbatim_cons hs, if_neg hc]
      exact hi.prepend (readVerbatim_kind_ne_quote _ _) _ _ _

end Lexeme

/-- What is left of a text, and of the same text with carriage returns in front of all newlines.
Behind a comment, which takes the carriage return at the end of its line, the newline of that line
is left alone. -/
inductive LeftAlike (region : Option QuoteSigil) : List Char → List Char → Prop
  | whole (text : List Char) : LeftAlike region text (withReturns text)
  | parted (text : List Char) (h : region = none) :
      LeftAlike region ('\n' :: text) ('\n' :: withReturns text)

theorem LeftAlike.count_eq {region : Option QuoteSigil} {text wide : List Char}
    (h : LeftAlike region text wide) : wide.count '\n' = text.count '\n' := by
  cases h with
  | whole => exact count_withReturns text
  | parted text => rw [List.count_cons_self, List.count_cons_self, count_withReturns]

namespace Lexeme

/-- Two lexemes of one kind and one literal that leave alike. -/
structure Alike (region : Option QuoteSigil) (lexeme wide : Lexeme) : Prop where
  kind_eq : wide.kind = lexeme.kind
  literal_eq : wide.literal = lexeme.literal
  region_eq : wide.regionAfter region = lexeme.regionAfter region
  rest : LeftAlike (lexeme.regionAfter region) lexeme.rest wide.rest

theorem Widens.alike {lexeme wide : Lexeme} (h : Widens lexeme wide)
    (region : Option QuoteSigil) : Alike region lexeme wide := by
  cases h with
  | intro ht =>
    refine ⟨rfl, rfl, ?_, .whole _⟩
    unfold regionAfter
    split
    next hk => rw [ht hk]
    next => rfl

theorem readComment_alike (text : List Char) :
    Alike none (readComment text) (readComment (withReturns text)) := by
  by_cases hn : '\n' ∈ text
  · obtain ⟨body, rest, rfl, hb⟩ := List.eq_append_cons_of_mem hn
    have hw : withReturns (body ++ '\n' :: rest) =
        (body ++ ['\r']) ++ '\n' :: withReturns rest := by
      rw [withReturns_append, withReturns_of_not_mem hb, withReturns_newline, List.append_assoc]
      rfl
    have hbw : '\n' ∉ body ++ ['\r'] := by simpa using hb
    obtain ⟨ht, hd⟩ := search_append hb rest
    obtain ⟨hwt, hwd⟩ := search_append hbw (withReturns rest)
    have htrim : trim (body ++ ['\r']) = trim body := trim_append_whiteSpace (by decide) body
    unfold readComment
    rw [hw, ht, hd, hwt, hwd]
    exact ⟨rfl, htrim, rfl, .parted rest rfl⟩
  · rw [withReturns_of_not_mem hn]
    have hr : (readComment text).rest = [] := (search_of_not_mem hn).2
    refine ⟨rfl, rfl, rfl, ?_⟩
    rw [hr]
    exact .whole []

theorem readPlain_alike (keywords : Keywords) {text : List Char} (hr : '\r' ∉ text)
    (hn : '\n' ∉ (readPlain keywords text).literal) :
    Alike none (readPlain keywords text) (readPlain keywords (withReturns text)) := by
  cases text with
  | nil => exact ⟨rfl, rfl, rfl, .whole []⟩
  | cons c cs =>
    by_cases hc : c = '\n'
    · subst hc
      have hrest : (readPlain keywords (withReturns ('\n' :: cs))).rest =
          withReturns (readPlain keywords ('\n' :: cs)).rest :=
        dropWhile_withReturns (p := isLayout) (by decide) cs
      refine ⟨rfl, rfl, rfl, ?_⟩
      rw [hrest]
      exact .whole _
    have ho := Opening.of_withReturns c cs
    rw [withReturns_cons hc]
    cases h : Opening.of c cs.head? <;> simp only [readPlain, ho, h] at hn ⊢
    case atSign => exact (readMacro_widens cs).alike none
    case numberSign => exact readComment_alike cs
    case digit => rw [← withReturns_cons hc]; exact (readNumber_widens (c :: cs)).alike none
    case dot | sigil => exact (Widens.intro fun _ => rfl).alike none
    case leftBrace | rightBrace | lineEnd =>
      exact (readLayout_widens (fun he => by cases he) c cs).alike none
    case apostrophe => exact (readRaw_widens hn).alike none
    case dollar => exact (readVariable_widens cs).alike none
    case heredoc =>
      obtain ⟨-, hs⟩ : c = '<' ∧ cs.head? = some '<' := Opening.fits h
      obtain ⟨rest, rfl⟩ := List.head?_eq_some_iff.mp hs
      rw [withReturns_cons (by decide)]
      have hrest : '\r' ∉ rest := fun hm => hr (by simp [hm])
      exact (readHeredoc_widens hrest).alike none
    case letter =>
      rw [← withReturns_cons hc]
      exact (readIdentifier_widens keywords (c :: cs)).alike none
    case other => rw [← withReturns_cons hc]; exact (readBareWord_widens (c :: cs)).alike none

theorem readQuoted_alike {sigil : QuoteSigil} {text : List Char}
    (hn : '\n' ∉ (readQuoted sigil text).literal) :
    Alike (some sigil) (readQuoted sigil text) (readQuoted sigil (withReturns text)) := by
  cases text with
  | nil => exact ⟨rfl, rfl, rfl, .whole []⟩
  | cons c cs =>
    have hc : c ≠ '\n' := by
      rintro rfl
      have hs : '\n' ≠ sigil.char := by cases sigil <;> decide
      rw [readQuoted, if_neg (by decide), if_neg hs] at hn
      exact hn (newline_mem_readVerbatim sigil cs)
    rw [withReturns_cons hc]
    simp only [readQuoted] at hn ⊢
    split
    next => exact (readVariable_widens cs).alike _
    next hd =>
      rw [if_neg hd] at hn
      split
      next => exact (Widens.intro fun _ => rfl).alike _
      next hs =>
        rw [if_neg hs] at hn
        rw [← withReturns_cons hc]
        exact (readVerbatim_widens hn).alike _

theorem read_alike (keywords : Keywords) {region : Option QuoteSigil} {text wide : List Char}
    (h : LeftAlike region text wide) (hr : '\r' ∉ text)
    (hn : '\n' ∉ (read keywords region text).literal) :
    Alike region (read keywords region text) (read keywords region wide) := by
  cases h with
  | whole =>
    cases region with
    | none => exact readPlain_alike keywords hr hn
    | some sigil => exact readQuoted_alike hn
  | parted rest h =>
    subst h
    exact (readLayout_widens (fun he => by cases he) '\n' rest).alike none

end Lexeme

namespace Scanner

/-- Two scanners that stand at one place of a text, but for the carriage returns that one of them
has in front of all newlines. -/
structure Alike (scanner wide : Scanner) : Prop where
  keywords_eq : wide.keywords = scanner.keywords
  region_eq : wide.region = scanner.region
  line_eq : wide.position.line = scanner.position.line
  rest : LeftAlike scanner.region scanner.rest wide.rest

theorem token_line (scanner : Scanner) : scanner.token.position.line = scanner.position.line := by
  have hg : '\n' ∉ scanner.gap := fun hm => by
    rcases eq_of_mem_gap hm with he | he
    · cases he
    · cases he
  have ht : scanner.token.position = scanner.position.after scanner.gap := rfl
  rw [ht, Position.line_after, List.count_eq_zero_of_not_mem hg, Nat.add_zero]

/-- The line of a scanner and the newlines left to it add up to the same all along. -/
theorem line_next (scanner : Scanner) :
    scanner.next.position.line + scanner.next.rest.count '\n' =
      scanner.position.line + scanner.rest.count '\n' := by
  have hp : scanner.next.position =
      (scanner.position.after scanner.gap).after scanner.lexeme.text := rfl
  rw [hp, Position.line_after, Position.line_after]
  conv => rhs; rw [← scanner.gap_append_text_append_rest]
  rw [List.count_append, List.count_append]
  omega

variable {scanner wide : Scanner}

theorem Alike.afterGap (h : Alike scanner wide) :
    LeftAlike scanner.region scanner.afterGap wide.afterGap := by
  obtain ⟨-, hr, -, hrest⟩ := h
  unfold Scanner.afterGap
  rw [hr]
  generalize scanner.rest = text at hrest
  generalize wide.rest = long at hrest
  cases hregion : scanner.region with
  | some sigil => rwa [hregion] at hrest
  | none =>
    cases hrest with
    | whole =>
      dsimp only
      rw [dropWhile_withReturns (by decide)]
      exact .whole _
    | parted rest => exact .parted rest rfl

theorem Alike.lexeme (h : Alike scanner wide) (hr : '\r' ∉ scanner.rest)
    (hn : '\n' ∉ scanner.lexeme.literal) :
    Lexeme.Alike scanner.region scanner.lexeme wide.lexeme := by
  have hgap : '\r' ∉ scanner.afterGap := by
    rw [← scanner.gap_append_afterGap] at hr
    exact fun hm => hr (List.mem_append_right _ hm)
  have hw : wide.lexeme = Lexeme.read scanner.keywords scanner.region wide.afterGap := by
    rw [Scanner.lexeme, h.keywords_eq, h.region_eq]
  rw [hw]
  exact Lexeme.read_alike scanner.keywords h.afterGap hgap hn

theorem Alike.next (h : Alike scanner wide) (hr : '\r' ∉ scanner.rest)
    (hn : '\n' ∉ scanner.lexeme.literal) : Alike scanner.next wide.next := by
  have hl := h.lexeme hr hn
  have hregion : wide.lexeme.regionAfter wide.region =
      scanner.lexeme.regionAfter scanner.region := by
    rw [h.region_eq, hl.region_eq]
  refine ⟨h.keywords_eq, hregion, ?_, hl.rest⟩
  have hline := scanner.line_next
  have hwide := wide.line_next
  have hrest := h.rest.count_eq
  have hleft : wide.next.rest.count '\n' = scanner.next.rest.count '\n' := hl.rest.count_eq
  rw [hrest, hleft, h.line_eq] at hwide
  omega

end Scanner

/-- What a token says but for its column. -/
def Token.entry (token : Token) : TokenKind × String × Nat :=
  (token.kind, token.literal, token.position.line)

theorem Scanner.Alike.entry_eq {scanner wide : Scanner} (h : Alike scanner wide)
    (hr : '\r' ∉ scanner.rest) (hn : '\n' ∉ scanner.lexeme.literal) :
    wide.token.entry = scanner.token.entry := by
  have hl := h.lexeme hr hn
  have hline : wide.token.position.line = scanner.token.position.line := by
    rw [token_line, token_line, h.line_eq]
  rw [Token.entry, Token.entry, hline]
  unfold token
  rw [hl.kind_eq, hl.literal_eq]

theorem TokenStream.drain_alike {scanner wide : Scanner} (h : scanner.Alike wide)
    (hr : '\r' ∉ scanner.rest)
    (hn : ∀ token ∈ (ofScanner scanner).drain.1, '\n' ∉ token.literal.toList) :
    (ofScanner wide).drain.1.map Token.entry = (ofScanner scanner).drain.1.map Token.entry := by
  have literal (scanner : Scanner) : scanner.token.literal.toList = scanner.lexeme.literal :=
    String.toList_ofList
  have terminal {scanner wide : Scanner} (he : wide.token.entry = scanner.token.entry) :
      wide.token.isTerminal = scanner.token.isTerminal :=
    congrArg (fun entry => entry.1.isTerminal) he
  revert wide
  refine drain_induction (motive := fun scanner tokens => '\r' ∉ scanner.rest →
    (∀ token ∈ tokens, '\n' ∉ token.literal.toList) → ∀ {wide : Scanner}, scanner.Alike wide →
      (ofScanner wide).drain.1.map Token.entry = tokens.map Token.entry)
    (fun scanner ht hr hn wide h => ?_) (fun scanner tokens ht ih hr hn wide h => ?_) scanner hr hn
  · have he := h.entry_eq hr (literal scanner ▸ hn _ List.mem_cons_self)
    rw [drain_of_isTerminal ((terminal he).trans ht), List.map_singleton, List.map_singleton, he]
  · have hlit : '\n' ∉ scanner.lexeme.literal := literal scanner ▸ hn _ List.mem_cons_self
    have he := h.entry_eq hr hlit
    have hrest : '\r' ∉ scanner.next.rest := by
      rw [← scanner.gap_append_text_append_rest] at hr
      exact fun hm => hr (List.mem_append_right _ (List.mem_append_right _ hm))
    rw [drain_of_not_isTerminal ((terminal he).trans ht), List.map_cons, List.map_cons, he,
      ih hrest (fun token hm => hn token (List.mem_cons_of_mem _ hm)) (h.next hr hlit)]

/-- A source whose lines end in a carriage return and a newline has the tokens of the source whose
lines end in a newline, on the same lines, if no token has a line end inside it. -/
theorem tokenize_withReturns (keywords : Keywords) {source : String} (hr : '\r' ∉ source.toList)
    (hn : ∀ token ∈ tokenize keywords source, '\n' ∉ token.literal.toList) :
    let wide := String.ofList (withReturns source.toList)
    (tokenize keywords wide).length = (tokenize keywords source).length ∧
    (tokenize keywords wide).map (fun token => (token.kind, token.literal, token.position.line)) =
      (tokenize keywords source).map
        fun token => (token.kind, token.literal, token.position.line) := by
  intro wide
  have hstrip : Scanner.stripMark (withReturns source.toList) =
      withReturns (Scanner.stripMark source.toList) := by
    cases source.toList with
    | nil => rfl
    | cons c cs =>
      by_cases hc : c = '\n'
      · subst hc
        rfl
      · rw [withReturns_cons hc, Scanner.stripMark, Scanner.stripMark]
        split
        · rfl
        · rw [withReturns_cons hc]
  have hrest : '\r' ∉ Scanner.stripMark source.toList := fun hm =>
    hr ((Scanner.rest_suffix keywords source 0).subset hm)
  have halike : (Scanner.ofSource keywords source).Alike (Scanner.ofSource keywords wide) := by
    refine ⟨rfl, rfl, rfl, ?_⟩
    unfold Scanner.ofSource
    rw [String.toList_ofList, hstrip]
    exact .whole _
  have hd := TokenStream.drain_alike halike hrest hn
  have hlength := congrArg List.length hd
  rw [List.length_map, List.length_map] at hlength
  exact ⟨hlength, hd⟩

/-- The source has a comment, a brace, a heredoc with a blank line, and quotations. -/
theorem tokenize_withReturns_post :
    let keywords := Keywords.ofList ["post"]
    let source := "post /x # c \n\x7b\n 1.\n<<E\n a\n\n E\n'q'\x60$v \x60\n"
    let wide := String.ofList (withReturns source.toList)
    '\r' ∉ source.toList ∧
    (∀ token ∈ tokenize keywords source, '\n' ∉ token.literal.toList) ∧
    (tokenize keywords wide).length = (tokenize keywords source).length ∧
    (tokenize keywords wide).map (fun token => (token.kind, token.literal, token.position.line)) =
      (tokenize keywords source).map
        fun token => (token.kind, token.literal, token.position.line) := by
  intro keywords source wide
  have hr : '\r' ∉ source.toList := by decide +kernel
  have hn : ∀ token ∈ tokenize keywords source, '\n' ∉ token.literal.toList := by decide +kernel
  exact ⟨hr, hn, tokenize_withReturns keywords hr hn⟩

end RequestScript
