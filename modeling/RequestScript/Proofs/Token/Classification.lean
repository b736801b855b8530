import Mathlib.Data.List.Forall2
import RequestScript.Proofs.Token.Reserved

namespace RequestScript

/-- The kinds that reserved words tell apart. -/
def TokenKind.isWord (kind : TokenKind) : Bool :=
  kind == identifier || kind == keyword

theorem TokenKind.isWord_iff {kind : TokenKind} :
    kind.isWord = true ↔ kind = identifier ∨ kind = keyword := by
  simp [isWord]

/-- The kind of a word. -/
def Keywords.kindOf (keywords : Keywords) (word : String) : TokenKind :=
  if keywords.contains word then .keyword else .identifier

theorem Keywords.kindOf_eq_keyword_iff {keywords : Keywords} {word : String} :
    keywords.kindOf word = .keyword ↔ word ∈ keywords.words := by
  simp [kindOf, contains]

/-- The kind of a literal under other reserved words. -/
def TokenKind.classify (keywords : Keywords) (literal : String) (kind : TokenKind) : TokenKind :=
  if kind.isWord then keywords.kindOf literal else kind

/-- At most a word changes its kind, from one of the two kinds to the other. -/
theorem TokenKind.classify_cases (keywords : Keywords) (literal : String) (kind : TokenKind) :
    kind.classify keywords literal = kind ∨
      (kind = .keyword ∧ kind.classify keywords literal = .identifier) ∨
      (kind = .identifier ∧ kind.classify keywords literal = .keyword) := by
  unfold classify Keywords.kindOf
  split
  next h =>
    rcases isWord_iff.mp h with rfl | rfl
    all_goals split <;> simp
  next => exact .inl rfl

theorem TokenKind.isTerminal_classify (keywords : Keywords) (literal : String) (kind : TokenKind) :
    (kind.classify keywords literal).isTerminal = kind.isTerminal := by
  rcases classify_cases keywords literal kind with h | ⟨rfl, h⟩ | ⟨rfl, h⟩
  · rw [h]
  · rw [h]
    rfl
  · rw [h]
    rfl

theorem TokenKind.classify_eq_quote_iff {keywords : Keywords} {literal : String}
    {kind : TokenKind} : kind.classify keywords literal = .quote ↔ kind = .quote := by
  rcases classify_cases keywords literal kind with h | ⟨rfl, h⟩ | ⟨rfl, h⟩
  all_goals simp [h]

/-- A token under other reserved words. -/
def Token.classify (keywords : Keywords) (token : Token) : Token :=
  { token with kind := token.kind.classify keywords token.literal }

/-- A word is spelled by a letter and what follows up to a delimiter, outside of quoted regions. -/
theorem Spelling.word_of_isWord {region : Option QuoteSigil} {lexeme : Lexeme}
    (h : Spelling region lexeme) (hw : lexeme.kind.isWord = true) :
    region = none ∧ lexeme.text = lexeme.literal ∧ ∃ c cs, lexeme.literal = c :: cs ∧
      isAlphabetic c = true ∧ ∀ d ∈ c :: cs, isDelimiter d = false := by
  cases h with
  | word hk hc hd => exact ⟨rfl, rfl, _, _, rfl, hc, hd⟩
  | _ => cases hw

namespace Lexeme

theorem readPlain_letter (keywords : Keywords) {c : Char} (h : isAlphabetic c = true)
    (cs : List Char) : readPlain keywords (c :: cs) = readIdentifier keywords (c :: cs) := by
  rw [readPlain, Opening.of_isAlphabetic h]

theorem isWord_readIdentifier (keywords : Keywords) (text : List Char) :
    (readIdentifier keywords text).kind.isWord = true := by
  unfold readIdentifier
  dsimp only
  split <;> rfl

/-- Nothing but words is read with an eye on the reserved words. -/
theorem readPlain_congr {first second : Keywords} {text : List Char}
    (h : (readPlain first text).kind.isWord = false) :
    readPlain second text = readPlain first text := by
  cases text with
  | nil => rfl
  | cons c cs =>
    cases ho : Opening.of c cs.head? with
    | letter =>
      rw [readPlain_letter first (Opening.fits ho), isWord_readIdentifier] at h
      cases h
    | _ => simp only [readPlain, ho]

end Lexeme

namespace Scanner

/-- The scanner with other reserved words. -/
def withKeywords (keywords : Keywords) (scanner : Scanner) : Scanner :=
  { scanner with keywords := keywords }

variable (keywords : Keywords) (scanner : Scanner)

theorem lexeme_withKeywords : (scanner.withKeywords keywords).lexeme =
    { scanner.lexeme with
      kind := scanner.lexeme.kind.classify keywords (String.ofList scanner.lexeme.literal) } := by
  have hl : (scanner.withKeywords keywords).lexeme =
      Lexeme.read keywords scanner.region scanner.afterGap := rfl
  cases hw : scanner.lexeme.kind.isWord with
  | false =>
    have hr : Lexeme.read keywords scanner.region scanner.afterGap = scanner.lexeme := by
      unfold lexeme Lexeme.read at hw ⊢
      split
      next h =>
        rw [h] at hw
        exact Lexeme.readPlain_congr hw
      next => rfl
    rw [hl, hr, TokenKind.classify, hw]
    rfl
  | true =>
    obtain ⟨hregion, ht, c, cs, hc, ha, -⟩ := scanner.lexeme_spelled.word_of_isWord hw
    -- the text that is left starts with the word, so both scanners read an identifier
    have hg : scanner.afterGap = c :: (cs ++ scanner.lexeme.rest) := by
      have whole := Lexeme.read_text_append scanner.keywords scanner.region scanner.afterGap
      rw [← lexeme, ht, hc] at whole
      exact whole.symm
    have hs : scanner.lexeme = Lexeme.readIdentifier scanner.keywords scanner.afterGap := by
      rw [lexeme, hregion, Lexeme.read, hg, Lexeme.readPlain_letter _ ha]
    rw [hl, hregion, Lexeme.read, TokenKind.classify, if_pos hw, hs, hg,
      Lexeme.readPlain_letter _ ha]
    rfl

theorem token_withKeywords :
    (scanner.withKeywords keywords).token = scanner.token.classify keywords := by
  rw [token, lexeme_withKeywords]
  rfl

theorem next_withKeywords :
    (scanner.withKeywords keywords).next = scanner.next.withKeywords keywords := by
  have hr : (scanner.withKeywords keywords).lexeme.regionAfter scanner.region =
      scanner.lexeme.regionAfter scanner.region := by
    rw [lexeme_withKeywords]
    simp only [Lexeme.regionAfter, TokenKind.classify_eq_quote_iff]
  have hp : (scanner.withKeywords keywords).lexeme.text = scanner.lexeme.text ∧
      (scanner.withKeywords keywords).lexeme.rest = scanner.lexeme.rest := by
    rw [lexeme_withKeywords]
    exact ⟨rfl, rfl⟩
  have hn : (scanner.withKeywords keywords).next = ⟨keywords,
      (scanner.withKeywords keywords).lexeme.rest,
      (scanner.position.after scanner.gap).after (scanner.withKeywords keywords).lexeme.text,
      (scanner.withKeywords keywords).lexeme.regionAfter scanner.region⟩ := rfl
  rw [hn, hr, hp.1, hp.2]
  rfl

end Scanner

/-- A source has one stream of tokens, in which the reserved words tell the keywords from the other
words. -/
theorem tokenize_classify (first second : Keywords) (source : String) :
    tokenize second source = (tokenize first source).map (Token.classify second) :=
  TokenStream.drain_map (Scanner.token_withKeywords second) (Scanner.next_withKeywords second)
    (fun _ => TokenKind.isTerminal_classify second _ _) (.ofSource first source)

namespace Token

/-- Two tokens that are the same, but for a word that is reserved in one of them. -/
structure SameButReserved (first second : Token) : Prop where
  literal : second.literal = first.literal
  position : second.position = first.position
  kind : second.kind = first.kind ∨ (first.kind = .keyword ∧ second.kind = .identifier) ∨
    (first.kind = .identifier ∧ second.kind = .keyword)

theorem sameButReserved_classify (keywords : Keywords) (token : Token) :
    token.SameButReserved (token.classify keywords) :=
  ⟨rfl, rfl, TokenKind.classify_cases keywords token.literal token.kind⟩

end Token

theorem Token.kind_eq_kindOf {keywords : Keywords} {source : String} {token : Token}
    (ht : token ∈ tokenize keywords source) (hw : token.kind.isWord = true) :
    token.kind = keywords.kindOf token.literal := by
  -- the stream stays as it is when its own reserved words classify it once more
  rw [tokenize_classify keywords keywords] at ht
  obtain ⟨read, -, rfl⟩ := List.mem_map.mp ht
  unfold Token.classify TokenKind.classify at hw ⊢
  dsimp only at hw ⊢
  split at hw
  next h => rw [if_pos h]
  next h => exact absurd hw h

/-- The reserved words only tell keywords from identifiers: under any two sets of them a source has
the same tokens at the same places, keywords and identifiers apart. Of these two, the keywords are
those that are reserved, letter by letter; each starts with a letter and has no delimiter in it. -/
theorem keywords_only_classify (first second : Keywords) (source : String) :
    (tokenize second source).length = (tokenize first source).length ∧
    List.Forall₂ Token.SameButReserved (tokenize first source) (tokenize second source) ∧
    ∀ token ∈ tokenize first source, token.kind = .identifier ∨ token.kind = .keyword →
      (token.kind = .keyword ↔ token.literal ∈ first.words) ∧
      ∃ c cs, token.literal.toList = c :: cs ∧ isAlphabetic c = true ∧
        ∀ d ∈ c :: cs, isDelimiter d = false := by
  refine ⟨?_, ?_, fun token ht hk => ?_⟩
  · rw [tokenize_classify first second, List.length_map]
  · rw [tokenize_classify first second, List.forall₂_map_right_iff, List.forall₂_same]
    exact fun token _ => token.sameButReserved_classify second
  · have hw := TokenKind.isWord_iff.mpr hk
    have hkind := Token.kind_eq_kindOf ht hw
    obtain ⟨stop, rfl⟩ := TokenStream.exists_token_eq ht
    refine ⟨?_, (stop.token_spelled.word_of_isWord hw).2.2⟩
    rw [hkind]
    exact Keywords.kindOf_eq_keyword_iff

end RequestScript
