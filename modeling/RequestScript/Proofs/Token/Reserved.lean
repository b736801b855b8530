import RequestScript.Proofs.Settings
import RequestScript.Proofs.Token.Stream

namespace RequestScript

theorem not_isAlphabetic_of_isDigit {c : Char} (h : c.isDigit = true) : isAlphabetic c = false := by
  have hn : ∀ n ∈ List.range' 48 10, isAlphabetic (Char.ofNat n) = false := by decide +kernel
  have hr : 48 ≤ c.toNat ∧ c.toNat ≤ 57 := by
    simp only [Char.isDigit, Bool.and_eq_true, decide_eq_true_eq, ge_iff_le,
      UInt32.le_iff_toNat_le] at h
    exact h
  have hc := hn c.toNat (List.mem_range'_1.mpr (by omega))
  rwa [Char.ofNat_toNat] at hc

theorem Opening.of_isAlphabetic {c : Char} (h : isAlphabetic c = true) (next : Option Char) :
    Opening.of c next = .letter := by
  have hd : ¬ c.isDigit = true := fun hd => by
    rw [not_isAlphabetic_of_isDigit hd] at h
    cases h
  unfold Opening.of
  split
  case h_13 => rw [if_neg hd, if_pos h]
  -- no mark that opens another lexeme is a letter
  all_goals exact absurd h (by decide)

theorem isWhiteSpace_of_isLayout {c : Char} (h : isLayout c = true) : isWhiteSpace c = true := by
  simp only [isLayout, Bool.or_eq_true, beq_iff_eq] at h
  rcases h with ((rfl | rfl) | rfl) | rfl
  all_goals rfl

/-- The characters that end an identifier and are no white space. -/
def identifierMarks : List Char := ['\x22', '\x60', '.', '\x7b', '\x7d', '$']

theorem isDelimiter_iff_mem {c : Char} (hw : isWhiteSpace c = false) :
    isDelimiter c = true ↔ c ∈ identifierMarks := by
  have hl : isLayout c = false := Bool.eq_false_iff.mpr fun hl => by
    rw [isWhiteSpace_of_isLayout hl] at hw
    cases hw
  have hq : isQuoteSigil c = true ↔ c = '\x22' ∨ c = '\x60' := by
    by_cases hd : c = '\x22'
    · simp [isQuoteSigil, QuoteSigil.ofChar?, QuoteSigil.char, hd]
    · by_cases hb : c = '\x60' <;>
        simp [isQuoteSigil, QuoteSigil.ofChar?, QuoteSigil.char, hd, hb]
  simp only [isDelimiter, hl, Bool.false_or, Bool.or_eq_true, hq, beq_iff_eq, identifierMarks,
    List.mem_cons, List.not_mem_nil, or_false, or_assoc]

/-- A token of a stream is the one that some scanner stands at. -/
theorem TokenStream.exists_token_eq {scanner : Scanner} {token : Token}
    (h : token ∈ (ofScanner scanner).drain.1) : ∃ stop : Scanner, stop.token = token := by
  rw [(drain_stops scanner).1] at h
  obtain ⟨stop, -, hs⟩ := List.mem_map.mp h
  exact ⟨stop, hs⟩

namespace Scanner

theorem isDelimiter_of_mem_keyword {scanner : Scanner} (hk : scanner.token.kind = .keyword)
    {c : Char} (hc : c ∈ scanner.token.literal.toList) : isDelimiter c = false := by
  have hs := scanner.token_spelled
  rw [hk] at hs
  generalize scanner.token.literal.toList = literal at hs hc
  generalize scanner.lexeme.text = text at hs
  generalize scanner.next.rest = rest at hs
  generalize scanner.region = region at hs
  cases hs with
  | word _ _ hw => exact hw c hc

/-- Scanning a word that starts with a letter and has no delimiter in it. -/
theorem lexeme_word (keywords : Keywords) (position : Position) {c : Char} {cs : List Char}
    (ha : isAlphabetic c = true) (hw : ∀ d ∈ c :: cs, isDelimiter d = false) :
    (Scanner.mk keywords (c :: cs) position none).gap = [] ∧
      (Scanner.mk keywords (c :: cs) position none).lexeme =
        ⟨if keywords.contains (String.ofList (c :: cs)) then .keyword else .identifier,
          c :: cs, c :: cs, []⟩ := by
  have hl : isLayout c = false := Opening.not_isLayout_of_isAlphabetic ha
  have hs : isSpacing c = false := by
    simp only [isLayout, Bool.or_eq_false_iff] at hl
    simp [isSpacing, hl]
  have hg : (c :: cs).takeWhile isSpacing = [] := by simp [hs]
  have hr : (c :: cs).dropWhile isSpacing = c :: cs := by simp [hs]
  have ht : (c :: cs).takeWhile (fun d => !isDelimiter d) = c :: cs :=
    List.takeWhile_eq_self_iff.mpr fun d hd => by simp [hw d hd]
  have hd : (c :: cs).dropWhile (fun d => !isDelimiter d) = [] :=
    List.dropWhile_eq_nil_iff.mpr fun d hd => by simp [hw d hd]
  refine ⟨hg, ?_⟩
  simp only [lexeme, afterGap, hr, Lexeme.read, Lexeme.readPlain, Opening.of_isAlphabetic ha,
    Lexeme.readIdentifier, ht, hd]

end Scanner

theorem tokenize_word {keywords : Keywords} {word : String} (hw : IsWord word)
    (hk : keywords.contains word = true) (hd : ∀ c ∈ word.toList, isDelimiter c = false) :
    tokenize keywords word = [⟨.keyword, word, .start⟩,
      ⟨.endOfInput, "", .after .start word.toList⟩] := by
  obtain ⟨c, hc, ha⟩ := hw.1
  obtain ⟨cs, hl⟩ := List.head?_eq_some_iff.mp hc
  have hmark : c ≠ '\ufeff' := by
    have hn : isAlphabetic '\ufeff' = false := by decide +kernel
    rintro rfl
    rw [hn] at ha
    cases ha
  have hsource : Scanner.ofSource keywords word = ⟨keywords, word.toList, .start, none⟩ := by
    rw [Scanner.ofSource, hl, Scanner.stripMark, if_neg hmark]
  obtain ⟨hg, hx⟩ := Scanner.lexeme_word keywords .start ha (hl ▸ hd)
  rw [← hl, String.ofList_toList, if_pos hk] at hx
  rw [← hl] at hg
  have htoken : (Scanner.ofSource keywords word).token = ⟨.keyword, word, .start⟩ := by
    rw [hsource, Scanner.token, hx, hg, String.ofList_toList]
    rfl
  have hnext : (Scanner.ofSource keywords word).next =
      ⟨keywords, [], .after .start word.toList, none⟩ := by
    rw [hsource, Scanner.next, hx, hg]
    rfl
  have hterminal : (Scanner.ofSource keywords word).token.isTerminal = false := by
    rw [htoken]
    rfl
  rw [tokenize, TokenStream.drain_of_not_isTerminal hterminal, htoken, hnext,
    TokenStream.drain_of_isTerminal rfl]
  rfl

namespace Settings

theorem isWord_of_validate {settings : Settings} {word : String}
    (h : settings.validate = .ok settings) (hm : word ∈ settings.keywords) : IsWord word := by
  by_cases hv : settings.Valid
  · exact hv.keywords word hm
  · obtain ⟨error, he, -⟩ := validate_eq_error hv
    rw [he] at h
    cases h

/-- A reserved word of accepted settings is scanned as a keyword if it has no mark in it that ends
an identifier. One that has such a mark is a keyword in no source at all. -/
theorem reserved_word_scanned_iff {settings : Settings} {word : String}
    (h : settings.validate = .ok settings) (hm : word ∈ settings.keywords) :
    (tokenize settings.reserved word = [⟨.keyword, word, .start⟩,
        ⟨.endOfInput, "", .after .start word.toList⟩] ↔
      ∀ c ∈ word.toList, c ∉ identifierMarks) ∧
    ((∃ c ∈ word.toList, c ∈ identifierMarks) → ∀ source, ∀ token ∈
      tokenize settings.reserved source, token.kind = .keyword → token.literal ≠ word) := by
  have hw := isWord_of_validate h hm
  have hk : settings.reserved.contains word = true := by
    rw [reserved, Keywords.contains_ofList]
    exact List.contains_iff_mem.mpr hm
  have hdead : (∃ c ∈ word.toList, c ∈ identifierMarks) → ∀ source, ∀ token ∈
      tokenize settings.reserved source, token.kind = .keyword → token.literal ≠ word := by
    rintro ⟨c, hc, hmark⟩ source token ht hkind rfl
    obtain ⟨stop, rfl⟩ := TokenStream.exists_token_eq ht
    have hn := Scanner.isDelimiter_of_mem_keyword hkind hc
    rw [(isDelimiter_iff_mem (hw.2 c hc)).mpr hmark] at hn
    cases hn
  refine ⟨⟨fun ht c hc hmark => ?_, fun hn => tokenize_word hw hk fun c hc => ?_⟩, hdead⟩
  · have hfirst : (⟨.keyword, word, .start⟩ : Token) ∈ tokenize settings.reserved word := by
      rw [ht]
      exact List.mem_cons_self
    exact hdead ⟨c, hc, hmark⟩ word _ hfirst rfl rfl
  · exact Bool.eq_false_iff.mpr fun hd => hn c hc ((isDelimiter_iff_mem (hw.2 c hc)).mp hd)

theorem reserved_word_scanned_default :
    Settings.default.validate = .ok Settings.default ∧ "bearer" ∈ Settings.default.keywords ∧
    tokenize Settings.default.reserved "bearer" = [⟨.keyword, "bearer", .start⟩,
      ⟨.endOfInput, "", .after .start "bearer".toList⟩] := by
  have h : Settings.default.validate = .ok Settings.default := validate_eq_ok valid_default
  have hm : "bearer" ∈ Settings.default.keywords := by decide
  exact ⟨h, hm, (reserved_word_scanned_iff h hm).1.mpr (by simp [identifierMarks])⟩

/-- Settings are accepted with a reserved word that falls apart in the source that it is all of. -/
theorem dotted_word_accepted :
    let settings : Settings := { Settings.default with keywords := ["a.b"] }
    settings.validate = .ok settings ∧ "a.b" ∈ settings.keywords ∧
    (tokenize settings.reserved "a.b").map (fun token => (token.kind, token.literal)) =
      [(.identifier, "a"), (.dot, ""), (.identifier, "b"), (.endOfInput, "")] ∧
    (tokenize settings.reserved "a.b").map (fun token => (token.kind, token.literal)) ≠
      [(.keyword, "a.b"), (.endOfInput, "")] := by
  intro settings
  have ht : (tokenize settings.reserved "a.b").map (fun token => (token.kind, token.literal)) =
      [(.identifier, "a"), (.dot, ""), (.identifier, "b"), (.endOfInput, "")] := by
    decide +kernel
  refine ⟨by decide +kernel, by decide, ht, ?_⟩
  rw [ht]
  decide

end Settings

end RequestScript
