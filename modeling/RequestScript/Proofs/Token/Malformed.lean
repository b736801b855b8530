import RequestScript.Proofs.Token.Heredoc
import RequestScript.Proofs.Token.Region

namespace RequestScript

/-- A text in the pieces that a quoted region is read by, from left to right: a backslash with the
character whose meaning it takes, or one character. -/
def pieces (sigil : QuoteSigil) : List Char → List (List Char)
  | [] => []
  | '\\' :: c :: cs =>
    if Lexeme.isEscapable sigil c then ['\\', c] :: pieces sigil cs
    else ['\\'] :: pieces sigil (c :: cs)
  | c :: cs => [c] :: pieces sigil cs

theorem pieces_cons {sigil : QuoteSigil} {c : Char} {cs : List Char}
    (h : ∀ d ds, c = '\\' → cs = d :: ds → False) :
    pieces sigil (c :: cs) = [c] :: pieces sigil cs := by
  cases cs with
  | nil => simp [pieces]
  | cons d ds =>
    have hc : c ≠ '\\' := fun hc => h d ds hc rfl
    rw [pieces.eq_def]
    split
    next he => cases he
    next he => exact absurd (List.cons.inj he).1 hc
    next he =>
      obtain ⟨rfl, rfl⟩ := List.cons.inj he
      rfl

/-- The texts at which no token starts, inside the quoted region of a sigil or outside of all. -/
inductive Malformed : Option QuoteSigil → List Char → Prop
  | unnamedMacro {rest : List Char} (h : startsName rest = false) : Malformed none ('@' :: rest)
  | unnamedVariable {region : Option QuoteSigil} {rest : List Char} (h : startsName rest = false)
      (hb : rest.head? ≠ some '{') : Malformed region ('$' :: rest)
  | bracedVariable {region : Option QuoteSigil} {rest : List Char}
      (h : ∀ name, IsName name → ¬ ('$' :: '{' :: (name ++ ['}'])) <+: '$' :: '{' :: rest) :
      Malformed region ('$' :: '{' :: rest)
  | openRaw {body : List Char} (h : '\x27' ∉ body) : Malformed none ('\x27' :: body)
  | openLabel {label : List Char} (h : '\n' ∉ label) : Malformed none ('<' :: '<' :: label)
  | blankLabel {label body : List Char} (hl : '\n' ∉ label) (hb : trim label = []) :
      Malformed none ('<' :: '<' :: (label ++ '\n' :: body))
  | openHeredoc {label body : List Char} (hl : '\n' ∉ label)
      (hn : ∀ line ∈ linesOf body, trim line ≠ trim label) :
      Malformed none ('<' :: '<' :: (label ++ '\n' :: body))
  | openRegion {sigil : QuoteSigil} : Malformed (some sigil) []
  | openText {sigil : QuoteSigil} {c : Char} {cs : List Char} (hd : c ≠ '$') (hs : c ≠ sigil.char)
      (hv : ['$'] ∉ pieces sigil (c :: cs)) (hc : [sigil.char] ∉ pieces sigil (c :: cs)) :
      Malformed (some sigil) (c :: cs)

namespace Lexeme

theorem readMacro_invalid_iff (text : List Char) :
    (readMacro text).kind = .invalid ↔ startsName text = false := by
  unfold readMacro
  cases startsName text with
  | true => simp
  | false => simp

theorem readRaw_invalid_iff (text : List Char) :
    (readRaw text).kind = .invalid ↔ '\x27' ∉ text := by
  have whole := List.takeWhile_append_dropWhile (p := (· != '\x27')) (l := text)
  have hn := not_mem_takeWhile_ne (c := '\x27') text
  have hd := head?_dropWhile_ne (c := '\x27') text
  unfold readRaw
  cases h : text.dropWhile (· != '\x27') with
  | nil =>
    rw [h, List.append_nil] at whole
    rw [whole] at hn
    exact ⟨fun _ => hn, fun _ => rfl⟩
  | cons close rest =>
    rw [h] at hd whole
    obtain rfl : close = '\x27' := by simpa using hd
    have hm : '\x27' ∈ text := by
      rw [← whole]
      exact List.mem_append_right _ List.mem_cons_self
    exact ⟨fun hk => (by cases hk), fun hm' => absurd hm hm'⟩

theorem readVariable_bare_invalid_iff {text : List Char} (hb : text.head? ≠ some '{') :
    (readVariable text).kind = .invalid ↔ startsName text = false := by
  unfold readVariable
  split
  next inner => exact absurd rfl hb
  next =>
    cases startsName text with
    | true => simp
    | false => simp

theorem readVariable_braced_invalid_iff (inner : List Char) :
    (readVariable ('{' :: inner)).kind = .invalid ↔
      ∀ name, IsName name → ¬ ('$' :: '{' :: (name ++ ['}'])) <+: '$' :: '{' :: inner := by
  constructor
  · intro hk name hn hp
    obtain ⟨rest, hrest⟩ := hp
    obtain rfl : name ++ '}' :: rest = inner := by simpa using hrest
    rw [readVariable_braced hn] at hk
    cases hk
  · intro h
    cases hs : startsName inner with
    | false => simp [readVariable, hs]
    | true =>
      have hn := isName_takeWhile hs
      have whole := List.takeWhile_append_dropWhile (p := isNamePart) (l := inner)
      simp only [readVariable, hs, if_true]
      split
      next rest hr =>
        rw [hr] at whole
        have hp : ('$' :: '{' :: (inner.takeWhile isNamePart ++ ['}'])) <+: '$' :: '{' :: inner :=
          ⟨rest, by simpa using whole⟩
        exact absurd hp (h _ hn)
      next => rfl

theorem readVariable_invalid_iff (region : Option QuoteSigil) (text : List Char) :
    (readVariable text).kind = .invalid ↔ Malformed region ('$' :: text) := by
  constructor
  · intro hk
    by_cases hb : text.head? = some '{'
    · obtain ⟨inner, rfl⟩ := List.head?_eq_some_iff.mp hb
      exact .bracedVariable ((readVariable_braced_invalid_iff inner).mp hk)
    · exact .unnamedVariable ((readVariable_bare_invalid_iff hb).mp hk) hb
  · intro hm
    cases hm with
    | unnamedVariable hs hb => exact (readVariable_bare_invalid_iff hb).mpr hs
    | bracedVariable h => exact (readVariable_braced_invalid_iff _).mpr h
    | openText hd => exact absurd rfl hd

theorem readHeredoc_invalid_iff (text : List Char) :
    (readHeredoc text).kind = .invalid ↔ Malformed none ('<' :: '<' :: text) := by
  constructor
  · intro hk
    by_cases hm : '\n' ∈ text
    · obtain ⟨label, body, rfl, hl⟩ := List.eq_append_cons_of_mem hm
      rw [readHeredoc_of_newline hl] at hk
      by_cases hb : trim label = []
      · exact .blankLabel hl hb
      · refine .openHeredoc hl fun line hline ht => ?_
        obtain ⟨_, _, _, _, _, _, hs, _⟩ := readHeredocBody_of_closed ⟨line, hline, ht⟩
        have hp : ((readHeredocBody (trim label) (splitLines body)).prepend []
            ('<' :: '<' :: (label ++ ['\n']))).kind = .string := hs
        rw [if_neg (mt (trim_eq_nil_iff label).mpr hb), hp] at hk
        cases hk
    · exact .openLabel hm
  · intro hm
    cases hm with
    | openLabel hl => rw [readHeredoc_of_not_mem hl]
    | blankLabel hl hb => rw [readHeredoc_of_newline hl, if_pos ((trim_eq_nil_iff _).mp hb)]
    | openHeredoc hl hn =>
      rw [readHeredoc_of_newline hl, readHeredocBody_of_open hn]
      split
      · rfl
      · rfl

theorem readNumber_kind (text : List Char) : (readNumber text).kind = .number := by
  unfold readNumber
  dsimp only
  split
  · split
    · rfl
    · rfl
  · rfl

/-- Outside of quoted regions only four openings can go wrong. -/
theorem opening_of_malformed {c : Char} {cs : List Char} (h : Malformed none (c :: cs)) :
    Opening.of c cs.head? ∈ [.atSign, .dollar, .apostrophe, .heredoc] := by
  cases h with
  | unnamedMacro => exact List.mem_of_elem_eq_true rfl
  | unnamedVariable => exact List.mem_of_elem_eq_true rfl
  | bracedVariable => exact List.mem_of_elem_eq_true rfl
  | openRaw => exact List.mem_of_elem_eq_true rfl
  | openLabel => exact List.mem_of_elem_eq_true rfl
  | blankLabel => exact List.mem_of_elem_eq_true rfl
  | openHeredoc => exact List.mem_of_elem_eq_true rfl

theorem readPlain_kind_ne_invalid (keywords : Keywords) {c : Char} {cs : List Char}
    {opening : Opening} (h : Opening.of c cs.head? = opening)
    (ho : opening ∉ [.atSign, .dollar, .apostrophe, .heredoc]) :
    (readPlain keywords (c :: cs)).kind ≠ .invalid := by
  cases opening <;> simp only [readPlain, h]
  case digit =>
    rw [readNumber_kind]
    decide
  case letter =>
    unfold readIdentifier
    dsimp only
    split
    · decide
    · decide
  case atSign | dollar | apostrophe | heredoc => simp at ho
  all_goals exact fun hk => by cases hk

theorem readPlain_invalid_iff (keywords : Keywords) (text : List Char) :
    (readPlain keywords text).kind = .invalid ↔ Malformed none text := by
  cases text with
  | nil => exact ⟨fun hk => (by cases hk), fun hm => (by cases hm)⟩
  | cons c cs =>
    cases h : Opening.of c cs.head?
    case atSign =>
      obtain rfl : c = '@' := Opening.fits h
      have hr : readPlain keywords ('@' :: cs) = readMacro cs := rfl
      rw [hr, readMacro_invalid_iff]
      exact ⟨.unnamedMacro, fun hm => by cases hm with | unnamedMacro hs => exact hs⟩
    case dollar =>
      obtain rfl : c = '$' := Opening.fits h
      exact readVariable_invalid_iff none cs
    case apostrophe =>
      obtain rfl : c = '\x27' := Opening.fits h
      have hr : readPlain keywords ('\x27' :: cs) = readRaw cs := rfl
      rw [hr, readRaw_invalid_iff]
      exact ⟨.openRaw, fun hm => by cases hm with | openRaw hb => exact hb⟩
    case heredoc =>
      obtain ⟨rfl, hs⟩ : c = '<' ∧ cs.head? = some '<' := Opening.fits h
      obtain ⟨rest, rfl⟩ := List.head?_eq_some_iff.mp hs
      exact readHeredoc_invalid_iff rest
    -- nothing goes wrong behind any other opening
    all_goals
      have hn : ¬ Malformed none (c :: cs) := fun hm => by simpa [h] using opening_of_malformed hm
      have hk := readPlain_kind_ne_invalid keywords h (by decide)
      exact iff_of_false hk hn

theorem readVerbatim_invalid_iff (sigil : QuoteSigil) (text : List Char) :
    (readVerbatim sigil text).kind = .invalid ↔
      ['$'] ∉ pieces sigil text ∧ [sigil.char] ∉ pieces sigil text := by
  have hb := sigil.char_ne.1
  fun_induction readVerbatim sigil text with
  | case1 => simp [pieces]
  | case2 c cs he ih =>
    rw [pieces, if_pos he]
    simpa [prepend] using ih
  | case3 c cs he ih =>
    rw [pieces, if_neg he]
    simpa [prepend, hb] using ih
  | case4 c cs hc hd =>
    rw [pieces_cons hc]
    rcases hd with rfl | rfl
    · simp
    · simp
  | case5 c cs hc hd ih =>
    obtain ⟨hv, hs⟩ := not_or.mp hd
    rw [pieces_cons hc]
    simpa [prepend, Ne.symm hv, Ne.symm hs] using ih

theorem readQuoted_invalid_iff (sigil : QuoteSigil) (text : List Char) :
    (readQuoted sigil text).kind = .invalid ↔ Malformed (some sigil) text := by
  cases text with
  | nil => exact ⟨fun _ => .openRegion, fun _ => rfl⟩
  | cons c cs =>
    by_cases hd : c = '$'
    · subst hd
      exact readVariable_invalid_iff (some sigil) cs
    by_cases hs : c = sigil.char
    · have hq : (readQuoted sigil (c :: cs)).kind = .quote := by
        simp only [readQuoted, if_neg hd, if_pos hs]
      rw [hq]
      refine ⟨fun hk => (by cases hk), fun hm => ?_⟩
      cases hm with
      | unnamedVariable => exact absurd rfl hd
      | bracedVariable => exact absurd rfl hd
      | openText _ hn => exact absurd hs hn
    · have hr : readQuoted sigil (c :: cs) = readVerbatim sigil (c :: cs) := by
        simp only [readQuoted, if_neg hd, if_neg hs]
      rw [hr, readVerbatim_invalid_iff]
      refine ⟨fun h => .openText hd hs h.1 h.2, fun hm => ?_⟩
      cases hm with
      | unnamedVariable => exact absurd rfl hd
      | bracedVariable => exact absurd rfl hd
      | openText _ _ hv hc => exact ⟨hv, hc⟩

theorem read_invalid_iff (keywords : Keywords) (region : Option QuoteSigil) (text : List Char) :
    (read keywords region text).kind = .invalid ↔ Malformed region text := by
  cases region with
  | none => exact readPlain_invalid_iff keywords text
  | some sigil => exact readQuoted_invalid_iff sigil text

end Lexeme

namespace Scanner

theorem endOfInput_iff (scanner : Scanner) :
    scanner.token.kind = .endOfInput ↔ scanner.isQuoted = false ∧ scanner.afterGap = [] := by
  constructor
  · intro hk
    obtain ⟨hr, ha⟩ := of_endOfInput hk
    rw [isQuoted, hr]
    exact ⟨rfl, ha⟩
  · rintro ⟨hq, ha⟩
    rw [token, lexeme, region_of_not_isQuoted hq, ha]
    rfl

/-- A token is what is wrong with a source exactly where the text ahead is malformed. Anywhere else
it is spelled as its kind asks for, by the text that it takes from what is ahead, and only the end
of all text outside of quoted regions is the end of input. -/
theorem invalid_iff_malformed (scanner : Scanner) :
    (scanner.token.kind = .invalid ↔ Malformed scanner.region scanner.afterGap) ∧
    (¬ Malformed scanner.region scanner.afterGap ↔ scanner.token.kind ≠ .invalid ∧
      Spelling scanner.region ⟨scanner.token.kind, scanner.token.literal.toList,
        scanner.lexeme.text, scanner.next.rest⟩ ∧
      scanner.lexeme.text ++ scanner.next.rest = scanner.afterGap) ∧
    (scanner.token.kind = .endOfInput ↔ scanner.isQuoted = false ∧ scanner.afterGap = []) := by
  have hm : scanner.token.kind = .invalid ↔ Malformed scanner.region scanner.afterGap :=
    Lexeme.read_invalid_iff scanner.keywords scanner.region scanner.afterGap
  have whole : scanner.lexeme.text ++ scanner.next.rest = scanner.afterGap :=
    Lexeme.read_text_append scanner.keywords scanner.region scanner.afterGap
  refine ⟨hm, ⟨fun hn => ?_, fun hw => ?_⟩, scanner.endOfInput_iff⟩
  · exact ⟨mt hm.mp hn, scanner.token_spelled, whole⟩
  · exact mt hm.mpr hw.1

end Scanner

end RequestScript
