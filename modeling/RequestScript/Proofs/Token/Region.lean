import RequestScript.Proofs.Token.Progress

namespace RequestScript

namespace QuoteSigil

theorem ofChar?_char (sigil : QuoteSigil) : ofChar? sigil.char = some sigil := by
  cases sigil with
  | double => rfl
  | back => rfl

theorem char_injective {a b : QuoteSigil} (h : a.char = b.char) : a = b := by
  have hs := congrArg ofChar? h
  rw [ofChar?_char, ofChar?_char] at hs
  exact Option.some.inj hs

theorem char_ne (sigil : QuoteSigil) :
    sigil.char ≠ '\\' ∧ sigil.char ≠ '$' ∧ sigil.char ≠ '{' ∧ sigil.char ≠ '}' := by
  cases sigil with
  | double => decide
  | back => decide

theorem not_isNamePart (sigil : QuoteSigil) : isNamePart sigil.char = false := by
  cases sigil with
  | double => decide
  | back => decide

theorem not_mem_of_isName (sigil : QuoteSigil) {name : List Char} (h : IsName name) :
    sigil.char ∉ name := by
  intro hm
  have hp := h.2 _ hm
  rw [not_isNamePart] at hp
  cases hp

end QuoteSigil

theorem unescape_ne_nil {sigil : QuoteSigil} {text : List Char} (h : text ≠ []) :
    unescape sigil text ≠ [] := by
  unfold unescape
  split
  · exact absurd rfl h
  · split
    · exact List.cons_ne_nil _ _
    · exact List.cons_ne_nil _ _
  · exact List.cons_ne_nil _ _

/-- Only backslashes are lost when escapes are read. -/
theorem count_unescape {c : Char} (hc : c ≠ '\\') (sigil : QuoteSigil) (text : List Char) :
    (unescape sigil text).count c = text.count c := by
  fun_induction unescape sigil text with
  | case1 => rfl
  | case2 d cs he ih =>
    rw [List.count_cons, ih, List.count_cons_of_ne (Ne.symm hc), List.count_cons]
  | case3 d cs he ih =>
    rw [List.count_cons_of_ne (Ne.symm hc), ih, List.count_cons_of_ne (Ne.symm hc)]
  | case4 d cs hd ih => rw [List.count_cons, ih, List.count_cons]

namespace Spelling

variable {sigil : QuoteSigil} {lexeme : Lexeme}

/-- What is read inside a quoted region: text up to a variable or the closing sigil, a variable, the
closing sigil, or what is wrong. -/
theorem quoted_cases (h : Spelling (some sigil) lexeme) :
    (lexeme.kind = .string ∧ lexeme.literal ≠ [] ∧
      ∃ c rest, (c = '$' ∨ c = sigil.char) ∧ lexeme.rest = c :: rest) ∨
    lexeme.kind = .variableName ∨ (lexeme.kind = .quote ∧ lexeme.text = [sigil.char]) ∨
    lexeme.kind = .invalid := by
  cases h with
  | closeQuote => exact Or.inr (Or.inr (Or.inl ⟨rfl, rfl⟩))
  | variableName hn => exact Or.inr (Or.inl rfl)
  | bracedVariable hn => exact Or.inr (Or.inl rfl)
  | @verbatim _ c text rest hn hc => exact Or.inl ⟨rfl, unescape_ne_nil hn, c, rest, hc, rfl⟩
  | unnamedVariable hn hb => exact Or.inr (Or.inr (Or.inr rfl))
  | unnamedBraced hn => exact Or.inr (Or.inr (Or.inr rfl))
  | openBraced hn hr => exact Or.inr (Or.inr (Or.inr rfl))
  | openVerbatim => exact Or.inr (Or.inr (Or.inr rfl))

theorem text_of_quote (h : Spelling (some sigil) lexeme) (hk : lexeme.kind = .quote) :
    lexeme.text = [sigil.char] := by
  rcases h.quoted_cases with ⟨hs, -⟩ | hv | ⟨-, ht⟩ | hi
  · rw [hs] at hk
    cases hk
  · rw [hv] at hk
    cases hk
  · exact ht
  · rw [hi] at hk
    cases hk

theorem rest_of_string (h : Spelling (some sigil) lexeme) (hk : lexeme.kind = .string) :
    ∃ c rest, (c = '$' ∨ c = sigil.char) ∧ lexeme.rest = c :: rest := by
  rcases h.quoted_cases with ⟨-, -, hrest⟩ | hv | ⟨hq, -⟩ | hi
  · exact hrest
  · rw [hv] at hk
    cases hk
  · rw [hq] at hk
    cases hk
  · rw [hi] at hk
    cases hk

/-- Inside the region of one sigil the other sigil is text like any other. -/
theorem other_plain (h : Spelling (some sigil) lexeme) {other : QuoteSigil} (ho : other ≠ sigil) :
    lexeme.literal.count other.char = lexeme.text.count other.char ∧
      (other.char ∈ lexeme.text → lexeme.kind = .string ∨
        lexeme.kind = .invalid ∧ lexeme.rest = []) := by
  obtain ⟨hb, hd, hl, hr⟩ := other.char_ne
  have hs : other.char ≠ sigil.char := fun he => ho (QuoteSigil.char_injective he)
  -- a spelling without the other sigil, in its literal and its text
  have absent {literal text : List Char} (hliteral : other.char ∉ literal)
      (htext : other.char ∉ text) {result : Prop} :
      literal.count other.char = text.count other.char ∧ (other.char ∈ text → result) := by
    rw [List.count_eq_zero_of_not_mem hliteral, List.count_eq_zero_of_not_mem htext]
    exact ⟨rfl, fun hm => absurd hm htext⟩
  cases h with
  | closeQuote => exact absent List.not_mem_nil (by simpa using hs)
  | variableName hn =>
    have hname := other.not_mem_of_isName hn
    exact absent hname (by simp [hd, hname])
  | bracedVariable hn =>
    have hname := other.not_mem_of_isName hn
    exact absent hname (by simp [hd, hl, hr, hname])
  | verbatim hn hc => exact ⟨count_unescape hb sigil _, fun _ => Or.inl rfl⟩
  | unnamedVariable hn hbrace => exact absent List.not_mem_nil (by simp [hd])
  | unnamedBraced hn => exact absent List.not_mem_nil (by simp [hd, hl])
  | openBraced hn hrest =>
    have hname := other.not_mem_of_isName hn
    exact absent hname (by simp [hd, hl, hname])
  | openVerbatim => exact ⟨count_unescape hb sigil _, fun _ => Or.inr ⟨rfl, rfl⟩⟩

theorem exists_sigil_of_quote (h : Spelling none lexeme) (hk : lexeme.kind = .quote) :
    ∃ sigil : QuoteSigil, lexeme.text = [sigil.char] := by
  cases h with
  | @openQuote sigil rest => exact ⟨sigil, rfl⟩
  | word hw =>
    rcases hw with rfl | rfl
    · cases hk
    · cases hk
  | _ => cases hk

end Spelling

theorem Lexeme.readVariable_kind_ne_string (text : List Char) :
    (readVariable text).kind ≠ .string := by
  unfold readVariable
  split
  · split
    · dsimp only
      split
      · exact fun h => by cases h
      · exact fun h => by cases h
    · exact fun h => by cases h
  · split
    · exact fun h => by cases h
    · exact fun h => by cases h

namespace Scanner

variable {scanner : Scanner} {sigil : QuoteSigil}

theorem isQuoted_of_region (h : scanner.region = some sigil) : scanner.isQuoted = true := by
  rw [isQuoted, h]
  rfl

theorem region_of_not_isQuoted (h : scanner.isQuoted = false) : scanner.region = none :=
  Option.isNone_iff_eq_none.mp (Option.isSome_eq_false_iff.mp h)

theorem lexeme_spelled_of_region (h : scanner.region = some sigil) :
    Spelling (some sigil) scanner.lexeme :=
  h ▸ scanner.lexeme_spelled

theorem region_next_of_ne_quote (h : scanner.token.kind ≠ .quote) :
    scanner.next.region = scanner.region :=
  if_neg h

theorem region_next_of_close (h : scanner.isQuoted = true) (hk : scanner.token.kind = .quote) :
    scanner.next.region = none := by
  obtain ⟨sigil, hs⟩ := Option.isSome_iff_exists.mp h
  have hn : scanner.next.region = scanner.lexeme.regionAfter scanner.region := rfl
  have hq : scanner.lexeme.kind = .quote := hk
  rw [hn, hs, Lexeme.regionAfter, if_pos hq]

/-- A quote outside of a region opens the one of its sigil. -/
theorem region_next_of_open (h : scanner.isQuoted = false) (hk : scanner.token.kind = .quote) :
    ∃ sigil : QuoteSigil, scanner.lexeme.text = [sigil.char] ∧
      scanner.next.region = some sigil := by
  have hr := region_of_not_isQuoted h
  have hq : scanner.lexeme.kind = .quote := hk
  have hl : Spelling none scanner.lexeme := hr ▸ scanner.lexeme_spelled
  obtain ⟨sigil, ht⟩ := hl.exists_sigil_of_quote hq
  have hn : scanner.next.region = scanner.lexeme.regionAfter scanner.region := rfl
  refine ⟨sigil, ht, ?_⟩
  rw [hn, hr, Lexeme.regionAfter, if_pos hq, ht]
  exact sigil.ofChar?_char

/-- A quote, and nothing else, changes whether a scanner is inside a quoted region. -/
theorem isQuoted_next (scanner : Scanner) :
    scanner.next.isQuoted = (scanner.isQuoted ^^ (scanner.token.kind == .quote)) := by
  by_cases hk : scanner.token.kind = .quote
  · have hb : (scanner.token.kind == .quote) = true := beq_iff_eq.mpr hk
    rw [hb, Bool.xor_true]
    cases hq : scanner.isQuoted with
    | true =>
      rw [isQuoted, region_next_of_close hq hk]
      rfl
    | false =>
      obtain ⟨sigil, -, hs⟩ := region_next_of_open hq hk
      rw [isQuoted, hs]
      rfl
  · have hb : (scanner.token.kind == .quote) = false := beq_eq_false_iff_ne.mpr hk
    rw [hb, Bool.xor_false, isQuoted, region_next_of_ne_quote hk]
    rfl

/-- The number of quotes among the next tokens. -/
def quotes (scanner : Scanner) (n : Nat) : Nat :=
  (scanner.scans n).countP fun result => result.1.kind == .quote

theorem quotes_succ (scanner : Scanner) (n : Nat) : scanner.quotes (n + 1) =
    scanner.next.quotes n + if scanner.token.kind == .quote then 1 else 0 :=
  List.countP_cons

theorem isQuoted_iterate (scanner : Scanner) (n : Nat) : (next^[n] scanner).isQuoted =
    (scanner.isQuoted ^^ decide (scanner.quotes n % 2 = 1)) := by
  induction n generalizing scanner with
  | zero =>
    have hz : decide (scanner.quotes 0 % 2 = 1) = false := rfl
    rw [hz, Bool.xor_false]
    rfl
  | succ n ih =>
    rw [Function.iterate_succ_apply, ih, isQuoted_next, Bool.xor_assoc, quotes_succ]
    congr 1
    cases scanner.token.kind == .quote with
    | true =>
      rw [Bool.true_xor, if_pos rfl, ← decide_not]
      exact decide_eq_decide.mpr (by omega)
    | false =>
      rw [Bool.false_xor]
      rfl

theorem token_kind_of_isQuoted (h : scanner.isQuoted = true) :
    scanner.token.kind = .string ∧ scanner.token.literal ≠ "" ∨
      scanner.token.kind = .variableName ∨ scanner.token.kind = .quote ∨
      scanner.token.kind = .invalid := by
  obtain ⟨sigil, hs⟩ := Option.isSome_iff_exists.mp h
  rcases (lexeme_spelled_of_region hs).quoted_cases with ⟨hk, hl, -⟩ | hk | ⟨hk, -⟩ | hk
  · refine Or.inl ⟨hk, fun he => hl ?_⟩
    have hliteral := congrArg String.toList he
    rwa [token, String.toList_ofList, String.toList_empty] at hliteral
  · exact Or.inr (Or.inl hk)
  · exact Or.inr (Or.inr (Or.inl hk))
  · exact Or.inr (Or.inr (Or.inr hk))

/-- Text of a quoted region ends only where something else begins. -/
theorem kind_next_ne_string (h : scanner.isQuoted = true) (hk : scanner.token.kind = .string) :
    scanner.next.token.kind ≠ .string := by
  obtain ⟨sigil, hs⟩ := Option.isSome_iff_exists.mp h
  obtain ⟨c, rest, hc, hrest⟩ := (lexeme_spelled_of_region hs).rest_of_string hk
  have hn : scanner.next.region = some sigil := by
    rw [region_next_of_ne_quote (by rw [hk]; exact fun he => by cases he), hs]
  have ha : scanner.next.afterGap = c :: rest := by
    rw [afterGap, hn]
    exact hrest
  have hl : scanner.next.lexeme = Lexeme.readQuoted sigil (c :: rest) := by
    rw [lexeme, hn, ha]
    rfl
  have ht : scanner.next.token.kind = scanner.next.lexeme.kind := rfl
  rw [ht, hl, Lexeme.readQuoted]
  rcases hc with rfl | rfl
  · rw [if_pos rfl]
    exact Lexeme.readVariable_kind_ne_string rest
  · rw [if_neg sigil.char_ne.2.1, if_pos rfl]
    exact fun he => by cases he

/-- Call `m` opens a region with a sigil, and call `n` is still made inside of it. -/
def Opens (start : Scanner) (m n : Nat) (sigil : QuoteSigil) : Prop :=
  m < n ∧ (next^[m] start).isQuoted = false ∧ (next^[m] start).token.kind = .quote ∧
    (next^[m] start).lexeme.text = [sigil.char] ∧
    ∀ k, m < k → k ≤ n → (next^[k] start).isQuoted = true

variable {start : Scanner} {m n : Nat}

theorem region_of_opens (h : start.Opens m n sigil) : (next^[n] start).region = some sigil := by
  obtain ⟨hmn, hq, hk, ht, hin⟩ := h
  induction n, hmn using Nat.le_induction with
  | base =>
    obtain ⟨opening, ho, hr⟩ := region_next_of_open hq hk
    rw [ht] at ho
    obtain rfl : sigil = opening := QuoteSigil.char_injective (List.cons.inj ho).1
    rw [Function.iterate_succ_apply', hr]
  | succ n hmn ih =>
    have hr := ih fun k hm hn => hin k hm (Nat.le_succ_of_le hn)
    have hnext := hin (n + 1) (Nat.lt_succ_of_lt hmn) (Nat.le_refl _)
    rw [Function.iterate_succ_apply'] at hnext ⊢
    have hne : (next^[n] start).token.kind ≠ .quote := by
      intro hc
      rw [isQuoted, region_next_of_close (isQuoted_of_region hr) hc] at hnext
      cases hnext
    rw [region_next_of_ne_quote hne, hr]

/-- A scanner that starts outside of all regions is inside one only behind the quote that opened
it. -/
theorem exists_opens (hs : start.isQuoted = false) (h : (next^[n] start).isQuoted = true) :
    ∃ m sigil, start.Opens m n sigil := by
  induction n with
  | zero =>
    have hz : start.isQuoted = true := h
    rw [hs] at hz
    cases hz
  | succ n ih =>
    cases hq : (next^[n] start).isQuoted with
    | true =>
      obtain ⟨m, sigil, hmn, ho, hk, ht, hin⟩ := ih hq
      refine ⟨m, sigil, Nat.lt_succ_of_lt hmn, ho, hk, ht, fun k hm hn => ?_⟩
      rcases Nat.le_succ_iff.mp hn with hn | rfl
      · exact hin k hm hn
      · exact h
    | false =>
      have hk : (next^[n] start).token.kind = .quote := by
        by_contra hne
        rw [Function.iterate_succ_apply', isQuoted, region_next_of_ne_quote hne] at h
        rw [isQuoted, h] at hq
        cases hq
      obtain ⟨sigil, ht, -⟩ := region_next_of_open hq hk
      refine ⟨n, sigil, Nat.lt_succ_self n, hq, hk, ht, fun k hm hn => ?_⟩
      obtain rfl : k = n + 1 := by omega
      exact h

theorem Opens.extend (h : start.Opens m n sigil) (hk : (next^[n] start).token.kind ≠ .quote) :
    start.Opens m (n + 1) sigil := by
  have hr := region_of_opens h
  obtain ⟨hmn, hq, hquote, ht, hin⟩ := h
  refine ⟨Nat.lt_succ_of_lt hmn, hq, hquote, ht, fun k hm hn => ?_⟩
  rcases Nat.le_succ_iff.mp hn with hn | rfl
  · exact hin k hm hn
  · rw [Function.iterate_succ_apply']
    exact isQuoted_of_region ((region_next_of_ne_quote hk).trans hr)

/-- A region that has been opened goes on, unless a quote has closed it. -/
theorem opens_or_closed (hq : (next^[m] start).isQuoted = false)
    (hk : (next^[m] start).token.kind = .quote) (hmn : m < n) :
    ∃ sigil, start.Opens m n sigil ∨
      ∃ k < n, start.Opens m k sigil ∧ (next^[k] start).token.kind = .quote := by
  obtain ⟨sigil, ht, hr⟩ := region_next_of_open hq hk
  refine ⟨sigil, ?_⟩
  induction n, hmn using Nat.le_induction with
  | base =>
    left
    refine ⟨Nat.lt_succ_self m, hq, hk, ht, fun k hm hn => ?_⟩
    obtain rfl : k = m + 1 := by omega
    rw [Function.iterate_succ_apply']
    exact isQuoted_of_region hr
  | succ n hmn ih =>
    rcases ih with ho | ⟨k, hkn, ho, hclose⟩
    · by_cases hclose : (next^[n] start).token.kind = .quote
      · exact Or.inr ⟨n, Nat.lt_succ_self n, ho, hclose⟩
      · exact Or.inl (ho.extend hclose)
    · exact Or.inr ⟨k, Nat.lt_succ_of_lt hkn, ho, hclose⟩

theorem isQuoted_of_endOfInput (h : scanner.token.kind = .endOfInput) :
    scanner.next.isQuoted = false := by
  have hne : scanner.token.kind ≠ .quote := by
    rw [h]
    exact fun he => by cases he
  rw [isQuoted, region_next_of_ne_quote hne, (of_endOfInput h).1]
  rfl

end Scanner

namespace TokenStream

theorem drain_snd (scanner : Scanner) : (ofScanner scanner).drain.2 =
    ⟨Scanner.next^[(ofScanner scanner).drain.1.length] scanner, true⟩ := by
  have hd : (ofScanner scanner).drain.2 =
      (⟨scanner.next, scanner.token.isTerminal⟩ : TokenStream).drain.2 := by
    conv => lhs; unfold drain
    rfl
  cases ht : scanner.token.isTerminal with
  | true =>
    have hlast : (⟨scanner.next, true⟩ : TokenStream).drain.2 = ⟨scanner.next, true⟩ := by
      rw [drain_finished]
    rw [hd, ht, hlast, drain_of_isTerminal ht]
    rfl
  | false =>
    have ih := drain_snd scanner.next
    rw [hd, ht, drain_of_not_isTerminal ht]
    exact ih
termination_by scanner.rest.length
decreasing_by exact Scanner.next_rest_length_lt ht

theorem isQuoted_of_drain_endOfInput (scanner : Scanner)
    (h : (ofScanner scanner).drain.1.getLast?.map Token.kind = some .endOfInput) :
    (ofScanner scanner).drain.2.scanner.isQuoted = false := by
  rw [drain_snd]
  revert h
  refine drain_induction (motive := fun scanner tokens =>
    tokens.getLast?.map Token.kind = some .endOfInput →
      (Scanner.next^[tokens.length] scanner).isQuoted = false) (fun scanner _ h => ?_)
    (fun scanner tokens ht ih h => ?_) scanner
  · exact Scanner.isQuoted_of_endOfInput (Option.some.inj h)
  · cases tokens with
    | nil =>
      have hk : scanner.token.kind = .endOfInput := Option.some.inj h
      rw [Token.isTerminal, hk] at ht
      cases ht
    | cons second rest => exact ih (by rwa [List.getLast?_cons_cons] at h)

/-- A stream that comes to the end of the input has closed each region that it opened. -/
theorem exists_close {start : Scanner}
    (h : (ofScanner start).drain.1.getLast?.map Token.kind = some .endOfInput) {m : Nat}
    (hm : m < (ofScanner start).drain.1.length) (hq : (Scanner.next^[m] start).isQuoted = false)
    (hk : (Scanner.next^[m] start).token.kind = .quote) :
    ∃ sigil, ∃ n < (ofScanner start).drain.1.length,
      start.Opens m n sigil ∧ (Scanner.next^[n] start).token.kind = .quote := by
  obtain ⟨sigil, ho | ⟨n, hn, ho, hclose⟩⟩ := Scanner.opens_or_closed hq hk hm
  · have hin := ho.2.2.2.2 _ hm (Nat.le_refl _)
    have hout := isQuoted_of_drain_endOfInput start h
    rw [drain_snd] at hout
    rw [hout] at hin
    cases hin
  · exact ⟨sigil, n, hn, ho, hclose⟩

theorem drain_kind_last (scanner : Scanner) :
    (ofScanner scanner).drain.1.getLast?.map Token.kind = some .endOfInput ∨
      (ofScanner scanner).drain.1.getLast?.map Token.kind = some .invalid := by
  obtain ⟨front, last, hd, hl, -⟩ := drain_eq_append_terminal scanner
  have hg : (ofScanner scanner).drain.1.getLast?.map Token.kind = some last.kind := by
    rw [hd, List.getLast?_append]
    rfl
  rw [hg]
  rcases Bool.or_eq_true_iff.mp hl with hk | hk
  · exact Or.inl (congrArg some (beq_iff_eq.mp hk))
  · exact Or.inr (congrArg some (beq_iff_eq.mp hk))

end TokenStream

/-- A scanner is inside a quoted region when the number of quotes before is odd. There it reads
text, variables and the sigil that opened the region; the other sigil is text, and two stretches of
text never meet. The end of the input is read outside of all regions, so that a source with a region
that is not closed ends in what is wrong. -/
theorem regions_closed_by_sigil (keywords : Keywords) (source : String) :
    let start := Scanner.ofSource keywords source
    let stop (n : Nat) := Scanner.next^[n] start
    let stream := (TokenStream.ofScanner start).drain
    (∀ n, (stop n).isQuoted = true ↔
      ((start.scans n).countP fun result => result.1.kind == .quote) % 2 = 1) ∧
    (∀ n, (stop n).isQuoted = true →
      (stop n).token.kind = .string ∧ (stop n).token.literal ≠ "" ∨
      (stop n).token.kind = .variableName ∨ (stop n).token.kind = .quote ∨
      (stop n).token.kind = .invalid) ∧
    (∀ n, (stop n).isQuoted = true → ∃ m sigil, start.Opens m n sigil) ∧
    (∀ m n sigil, start.Opens m n sigil →
      ((stop n).token.kind = .quote → (stop n).lexeme.text = [sigil.char]) ∧
      ∀ other, other ≠ sigil →
        (stop n).token.literal.toList.count other.char = (stop n).lexeme.text.count other.char ∧
        (other.char ∈ (stop n).lexeme.text → (stop n).token.kind = .string ∨
          (stop n).token.kind = .invalid ∧ (stop (n + 1)).rest = [])) ∧
    (∀ n, (stop n).isQuoted = true → (stop n).token.kind = .string →
      (stop (n + 1)).token.kind ≠ .string) ∧
    (stream.1.getLast?.map Token.kind = some .endOfInput → stream.2.scanner.isQuoted = false ∧
      ∀ m < stream.1.length, (stop m).isQuoted = false → (stop m).token.kind = .quote →
        ∃ sigil, ∃ n < stream.1.length, start.Opens m n sigil ∧ (stop n).token.kind = .quote) ∧
    (stream.2.scanner.isQuoted = true →
      stream.1.getLast?.map Token.kind = some .invalid) := by
  intro start stop stream
  have hsucc (n : Nat) : stop (n + 1) = (stop n).next := Function.iterate_succ_apply' _ _ _
  have hstart : start.isQuoted = false := rfl
  refine ⟨fun n => ?_, fun n hq => Scanner.token_kind_of_isQuoted hq,
    fun n hq => Scanner.exists_opens hstart hq, fun m n sigil ho => ⟨fun hk => ?_, ?_⟩,
    fun n hq hk => ?_, fun he => ?_, fun hq => ?_⟩
  · have hi : (stop n).isQuoted = decide (start.quotes n % 2 = 1) := by
      rw [start.isQuoted_iterate n, hstart, Bool.false_xor]
    rw [hi]
    exact decide_eq_true_iff
  · exact (Scanner.lexeme_spelled_of_region (Scanner.region_of_opens ho)).text_of_quote hk
  · intro other hother
    have hl := Scanner.lexeme_spelled_of_region (Scanner.region_of_opens ho)
    have ht : (stop n).token.literal.toList = (stop n).lexeme.literal := String.toList_ofList
    rw [hsucc, ht]
    exact hl.other_plain hother
  · rw [hsucc]
    exact Scanner.kind_next_ne_string hq hk
  · exact ⟨TokenStream.isQuoted_of_drain_endOfInput start he,
      fun m hm hq hk => TokenStream.exists_close he hm hq hk⟩
  · rcases TokenStream.drain_kind_last start with he | hi
    · have hend : stream.2.scanner.isQuoted = false :=
        TokenStream.isQuoted_of_drain_endOfInput start he
      rw [hend] at hq
      cases hq
    · exact hi

end RequestScript
