import RequestScript.Proofs.Token.Stream
import RequestScript.Proofs.Word.Leaves
import RequestScript.Word.Quotation

namespace RequestScript

/-- A text with a backslash in front of each character that has a meaning in a quoted region. -/
def escape (sigil : QuoteSigil) (text : List Char) : List Char :=
  text.flatMap fun c => if Lexeme.isEscapable sigil c then ['\\', c] else [c]

/-- A leaf as it is written in a quoted region. -/
def Leaf.escaped (sigil : QuoteSigil) : Leaf → List Char
  | text value => escape sigil value.toList
  | name value => '$' :: '{' :: (value.toList ++ ['}'])

/-- The kind and the literal of the token that a leaf makes. -/
def Leaf.content : Leaf → TokenKind × String
  | text value => (.string, value)
  | name value => (.variableName, value)

def Token.content (token : Token) : TokenKind × String :=
  (token.kind, token.literal)

/-- A token of the given kind and literal, wherever it stands. -/
def Token.ofContent (content : TokenKind × String) : Token :=
  ⟨content.1, content.2, .start⟩

namespace Word

mutual

/-- A word as it is written in a quoted region, with backslashes in its texts. -/
def escaped (sigil : QuoteSigil) : Word → List Char
  | literal text => escape sigil text.toList
  | reference name => '$' :: '{' :: (name.toList ++ ['}'])
  | compound parts => escapedAll sigil parts

def escapedAll (sigil : QuoteSigil) : List Word → List Char
  | [] => []
  | part :: parts => escaped sigil part ++ escapedAll sigil parts

end

mutual

theorem escaped_leaves (sigil : QuoteSigil) (word : Word) :
    word.leaves.flatMap (Leaf.escaped sigil) = word.escaped sigil := by
  cases word with
  | literal text => simp [leaves, Leaf.escaped, escaped]
  | reference name => simp [leaves, Leaf.escaped, escaped]
  | compound parts => exact escaped_leavesOfAll sigil parts

theorem escaped_leavesOfAll (sigil : QuoteSigil) (parts : List Word) :
    (leavesOfAll parts).flatMap (Leaf.escaped sigil) = escapedAll sigil parts := by
  cases parts with
  | nil => rfl
  | cons part parts =>
    rw [leavesOfAll, List.flatMap_append, escaped_leaves sigil part,
      escaped_leavesOfAll sigil parts, escapedAll]

end

theorem escaped_merge (sigil : QuoteSigil) (leaves : List Leaf) :
    (Leaf.merge leaves).flatMap (Leaf.escaped sigil) = leaves.flatMap (Leaf.escaped sigil) := by
  refine Leaf.apply_merge (f := fun leaves => leaves.flatMap (Leaf.escaped sigil))
    (fun first second rest => ?_) (fun rest => ?_) (fun leaf rest others h => ?_) leaves
  · simp [Leaf.escaped, escape]
  · simp [Leaf.escaped, escape]
  · simp only [List.flatMap_cons, h]

theorem escape_of_plain {sigil : QuoteSigil} {text : List Char}
    (h : ∀ c ∈ text, Lexeme.isEscapable sigil c = false) : escape sigil text = text := by
  induction text with
  | nil => rfl
  | cons c cs ih =>
    have hc := h c List.mem_cons_self
    have hcs := ih fun d hd => h d (List.mem_cons_of_mem c hd)
    rw [escape, List.flatMap_cons, ← escape, hcs]
    simp [hc]

mutual

/-- Without characters to escape, a word is written as it is shown. -/
theorem escaped_eq_display {sigil : QuoteSigil} {word : Word}
    (h : ∀ value, .text value ∈ word.leaves →
      ∀ c ∈ value.toList, Lexeme.isEscapable sigil c = false) :
    word.escaped sigil = word.display := by
  cases word with
  | literal text => exact escape_of_plain (h text (by simp [leaves]))
  | reference name => rfl
  | compound parts => exact escapedAll_eq_displayAll h

theorem escapedAll_eq_displayAll {sigil : QuoteSigil} {parts : List Word}
    (h : ∀ value, .text value ∈ leavesOfAll parts →
      ∀ c ∈ value.toList, Lexeme.isEscapable sigil c = false) :
    escapedAll sigil parts = displayAll parts := by
  cases parts with
  | nil => rfl
  | cons part parts =>
    have hp : part.escaped sigil = part.display :=
      escaped_eq_display fun value hv => h value (List.mem_append_left _ hv)
    have hr : escapedAll sigil parts = displayAll parts :=
      escapedAll_eq_displayAll fun value hv => h value (List.mem_append_right _ hv)
    rw [escapedAll, displayAll, hp, hr]

end

end Word

namespace Lexeme

theorem isEscapable_iff {sigil : QuoteSigil} {c : Char} :
    isEscapable sigil c = true ↔ c = '$' ∨ c = sigil.char ∨ c = '\\' := by
  simp [isEscapable, or_assoc]

/-- An escaped text is read back, up to a variable or the closing sigil. -/
theorem readVerbatim_escape {sigil : QuoteSigil} {c : Char} (hc : c = '$' ∨ c = sigil.char)
    (text rest : List Char) :
    readVerbatim sigil (escape sigil text ++ c :: rest) =
      ⟨.string, text, escape sigil text, c :: rest⟩ := by
  induction text with
  | nil =>
    have hb : c ≠ '\\' := by
      rcases hc with rfl | rfl
      · decide
      · cases sigil <;> decide
    simp [escape, readVerbatim, hb, hc]
  | cons d ds ih =>
    rw [escape, List.flatMap_cons, ← escape]
    by_cases he : isEscapable sigil d = true
    · simp only [if_pos he, List.cons_append, List.nil_append]
      rw [readVerbatim, if_pos he, ih]
      rfl
    · have hd := mt isEscapable_iff.mpr he
      simp only [not_or] at hd
      simp only [if_neg he, List.cons_append, List.nil_append]
      rw [readVerbatim.eq_def]
      simp [hd, ih, prepend]

theorem readQuoted_escape {sigil : QuoteSigil} {c : Char} (hc : c = '$' ∨ c = sigil.char)
    {text : List Char} (hn : text ≠ []) (rest : List Char) :
    readQuoted sigil (escape sigil text ++ c :: rest) =
      ⟨.string, text, escape sigil text, c :: rest⟩ := by
  obtain ⟨first, others, he, hf⟩ : ∃ first others, escape sigil text = first :: others ∧
      first ≠ '$' ∧ first ≠ sigil.char := by
    obtain ⟨d, ds, rfl⟩ := List.exists_cons_of_ne_nil hn
    by_cases hd : isEscapable sigil d = true
    · exact ⟨'\\', d :: escape sigil ds, by simp [escape, hd], by decide,
        by cases sigil <;> decide⟩
    · refine ⟨d, escape sigil ds, by simp [escape, hd], ?_⟩
      have hp := mt isEscapable_iff.mpr hd
      simp only [not_or] at hp
      exact ⟨hp.1, hp.2.1⟩
  rw [← readVerbatim_escape hc text rest, he, List.cons_append]
  simp only [readQuoted, hf.1, hf.2, if_false]

end Lexeme

namespace Scanner

theorem lexeme_quoted {scanner : Scanner} {sigil : QuoteSigil} (h : scanner.region = some sigil) :
    scanner.lexeme = Lexeme.readQuoted sigil scanner.rest := by
  unfold lexeme afterGap Lexeme.read
  rw [h]

theorem next_of_lexeme {scanner : Scanner} {lexeme : Lexeme} (h : scanner.lexeme = lexeme)
    (hk : lexeme.kind ≠ .quote) :
    scanner.next.rest = lexeme.rest ∧ scanner.next.region = scanner.region := by
  subst h
  exact ⟨rfl, if_neg hk⟩

end Scanner

namespace TokenStream

theorem content_of_lexeme {scanner : Scanner} {lexeme : Lexeme} (h : scanner.lexeme = lexeme)
    (hk : lexeme.kind.isTerminal = false) :
    (ofScanner scanner).drain.1.map Token.content = (lexeme.kind, String.ofList lexeme.literal) ::
      (ofScanner scanner.next).drain.1.map Token.content := by
  subst h
  rw [drain_of_not_isTerminal hk]
  rfl

theorem content_of_nil {scanner : Scanner} (hr : scanner.region = none) (ht : scanner.rest = []) :
    (ofScanner scanner).drain.1.map Token.content = [(.endOfInput, "")] := by
  obtain ⟨keywords, rest, position, region⟩ := scanner
  obtain rfl := ht
  obtain rfl := hr
  rw [drain_of_isTerminal rfl]
  rfl

/-- The rest of a quoted region that holds merged leaves makes one token for each of them. -/
theorem content_quoted {scanner : Scanner} {sigil : QuoteSigil} {leaves : List Leaf}
    (hr : scanner.region = some sigil)
    (ht : scanner.rest = leaves.flatMap (Leaf.escaped sigil) ++ [sigil.char])
    (hm : Leaf.IsMerged leaves) (hn : ∀ value, .name value ∈ leaves → IsName value.toList) :
    (ofScanner scanner).drain.1.map Token.content =
      leaves.map Leaf.content ++ [(.quote, ""), (.endOfInput, "")] := by
  induction leaves generalizing scanner with
  | nil =>
    have hl := Scanner.lexeme_quoted hr
    have hq : Lexeme.readQuoted sigil [sigil.char] = ⟨.quote, [], [sigil.char], []⟩ := by
      cases sigil <;> rfl
    rw [ht, List.flatMap_nil, List.nil_append, hq] at hl
    have hnext : scanner.next.rest = [] ∧ scanner.next.region = none := by
      simp [Scanner.next, hl, hr, Lexeme.regionAfter]
    rw [content_of_lexeme hl rfl, content_of_nil hnext.2 hnext.1]
    rfl
  | cons leaf rest ih =>
    have hl := Scanner.lexeme_quoted hr
    have hn' : ∀ value, .name value ∈ rest → IsName value.toList :=
      fun value hv => hn value (List.mem_cons_of_mem leaf hv)
    rw [ht, List.flatMap_cons, List.append_assoc] at hl
    cases leaf with
    | name value =>
      simp only [Leaf.escaped, List.cons_append, List.append_assoc, List.nil_append] at hl
      have hl' := hl.trans (Lexeme.readVariable_braced (hn value List.mem_cons_self) _)
      have hk : TokenKind.variableName ≠ .quote := by decide
      obtain ⟨hrest, hregion⟩ := Scanner.next_of_lexeme hl' hk
      rw [content_of_lexeme hl' rfl, ih (hregion.trans hr) hrest hm hn', String.ofList_toList]
      rfl
    | text value =>
      obtain ⟨he, ho, hm'⟩ := hm
      -- behind a merged text stands a name or the closing sigil, and there its token ends
      obtain ⟨c, others, hc, hcs⟩ : ∃ c others, (c = '$' ∨ c = sigil.char) ∧
          rest.flatMap (Leaf.escaped sigil) ++ [sigil.char] = c :: others := by
        cases rest with
        | nil => exact ⟨sigil.char, [], Or.inr rfl, rfl⟩
        | cons second rest =>
          cases second with
          | text second => exact absurd rfl (ho second rest)
          | name second => exact ⟨'$', _, Or.inl rfl, rfl⟩
      have hv : value.toList ≠ [] := fun h => he (String.toList_eq_nil_iff.mp h)
      have hl' := hl.trans (by rw [Leaf.escaped, hcs, Lexeme.readQuoted_escape hc hv, ← hcs])
      have hk : TokenKind.string ≠ .quote := by decide
      obtain ⟨hrest, hregion⟩ := Scanner.next_of_lexeme hl' hk
      rw [content_of_lexeme hl' rfl, ih (hregion.trans hr) hrest hm' hn', String.ofList_toList]
      rfl

/-- A source that starts with a sigil goes on in the quoted region that it opens. -/
theorem content_of_sigil (keywords : Keywords) (sigil : QuoteSigil) (rest : List Char) :
    ∃ scanner : Scanner, scanner.region = some sigil ∧ scanner.rest = rest ∧
      (tokenize keywords (String.ofList (sigil.char :: rest))).map Token.content =
        (.quote, "") :: (ofScanner scanner).drain.1.map Token.content := by
  have hs : Scanner.stripMark (sigil.char :: rest) = sigil.char :: rest := by
    cases sigil <;> rfl
  have hl : (Scanner.ofSource keywords (String.ofList (sigil.char :: rest))).lexeme =
      ⟨.quote, [], [sigil.char], rest⟩ := by
    unfold Scanner.ofSource
    rw [String.toList_ofList, hs]
    cases sigil <;> rfl
  refine ⟨(Scanner.ofSource keywords (String.ofList (sigil.char :: rest))).next, ?_, ?_,
    content_of_lexeme hl rfl⟩
  · rw [Scanner.next, hl]
    cases sigil <;> rfl
  · rw [Scanner.next, hl]

end TokenStream

namespace Word

theorem ofTokensFrom_content (region : Option (List Word)) (tokens : List Token) :
    ofTokensFrom region ((tokens.map Token.content).map Token.ofContent) =
      ofTokensFrom region tokens := by
  induction tokens generalizing region with
  | nil => rfl
  | cons token rest ih =>
    cases region with
    | none =>
      simp only [List.map_cons, ofTokensFrom, ih]
      rfl
    | some parts =>
      simp only [List.map_cons, ofTokensFrom, ih]
      rfl

theorem ofToken?_leaf (leaf : Leaf) : ofToken? (.ofContent leaf.content) = some leaf.toWord := by
  cases leaf <;> rfl

theorem ofTokensFrom_leaves (parts : List Word) (leaves : List Leaf) :
    ofTokensFrom (some parts) ((leaves.map Leaf.content ++
      [(TokenKind.quote, ""), (TokenKind.endOfInput, "")]).map Token.ofContent) =
        [compound (parts.reverse ++ leaves.map Leaf.toWord)] := by
  induction leaves generalizing parts with
  | nil => simp [ofTokensFrom, Token.ofContent]
  | cons leaf rest ih =>
    cases leaf with
    | text value => exact (ih (.literal value :: parts)).trans (by simp [Leaf.toWord])
    | name value => exact (ih (.reference value :: parts)).trans (by simp [Leaf.toWord])

theorem filterMap_ofToken?_leaves (leaves : List Leaf) :
    ((leaves.map Leaf.content ++
      [(TokenKind.quote, ""), (TokenKind.endOfInput, "")]).map Token.ofContent).filterMap ofToken? =
        leaves.map Leaf.toWord := by
  induction leaves with
  | nil => rfl
  | cons leaf rest ih =>
    simp only [List.map_cons, List.cons_append, List.filterMap_cons, ofToken?_leaf, ih]

theorem filterMap_ofToken?_content (tokens : List Token) :
    ((tokens.map Token.content).map Token.ofContent).filterMap ofToken? =
      tokens.filterMap ofToken? := by
  rw [List.map_map, List.filterMap_map]
  rfl

/-- A word that is written in a quoted region is scanned as its leaves, and the word that is made
of their tokens stands for the same texts. -/
theorem read_escaped (keywords : Keywords) (sigil : QuoteSigil) {word : Word}
    (hn : ∀ name ∈ word.names, IsName name.toList) :
    let tokens :=
      tokenize keywords (String.ofList (sigil.char :: (word.escaped sigil ++ [sigil.char])))
    let again := compound (tokens.filterMap ofToken?)
    tokens.map Token.content = (.quote, "") :: ((Leaf.merge word.leaves).map Leaf.content ++
      [(.quote, ""), (.endOfInput, "")]) ∧
    ofTokens tokens = [again] ∧ again.names = word.names ∧
    (∀ env, again.expand env = word.expand env) ∧
    ((∀ value, .text value ∈ word.leaves →
      ∀ c ∈ value.toList, c ≠ '$' ∧ c ≠ sigil.char ∧ c ≠ '\\') →
        word.escaped sigil = word.display) := by
  intro tokens again
  have hc : tokens.map Token.content = (.quote, "") :: ((Leaf.merge word.leaves).map Leaf.content ++
      [(.quote, ""), (.endOfInput, "")]) := by
    obtain ⟨scanner, hr, ht, hs⟩ :=
      TokenStream.content_of_sigil keywords sigil (word.escaped sigil ++ [sigil.char])
    rw [← escaped_leaves, ← escaped_merge] at ht
    rw [hs, TokenStream.content_quoted hr ht (Leaf.isMerged_merge word.leaves)]
    intro value hv
    refine hn value ?_
    rw [← namesOfAll_leaves, ← namesOfAll_merge]
    exact mem_namesOfAll hv
  have hp : tokens.filterMap ofToken? = (Leaf.merge word.leaves).map Leaf.toWord := by
    rw [← filterMap_ofToken?_content, hc]
    exact filterMap_ofToken?_leaves (Leaf.merge word.leaves)
  refine ⟨hc, ?_, ?_, fun env => ?_, fun h => ?_⟩
  · rw [ofTokens, ← ofTokensFrom_content, hc]
    exact (ofTokensFrom_leaves [] _).trans (by rw [← hp]; rfl)
  · show namesOfAll (tokens.filterMap ofToken?) = word.names
    rw [hp, namesOfAll_merge, namesOfAll_leaves]
  · show expandAll env (tokens.filterMap ofToken?) = word.expand env
    rw [hp, expandAll_merge, expandAll_leaves]
  · refine escaped_eq_display fun value hv c hc => ?_
    obtain ⟨hd, hq, hb⟩ := h value hv c hc
    rw [Bool.eq_false_iff, ne_eq, Lexeme.isEscapable_iff]
    simp [hd, hq, hb]

theorem read_escaped_dollar :
    (∀ name ∈ (compound [literal "$", reference "_"]).names, IsName name.toList) ∧
    (tokenize (.ofList []) "\"\\$$\x7b_\x7d\"").map Token.content =
      [(.quote, ""), (.string, "$"), (.variableName, "_"), (.quote, ""), (.endOfInput, "")] := by
  have hn : ∀ name ∈ (compound [literal "$", reference "_"]).names, IsName name.toList := by
    intro name h
    obtain rfl : name = "_" := by simpa [names, namesOfAll] using h
    exact ⟨by simp [startsName, isNameStart], by simp [isNamePart]⟩
  exact ⟨hn, (read_escaped (.ofList []) .double hn).1⟩

end Word

end RequestScript
