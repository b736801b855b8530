import Mathlib.Data.List.Chain
import RequestScript.Proofs.Token.Region

namespace RequestScript

/-- Whether there is a line end in a text. -/
def HasLineEnd (text : List Char) : Prop :=
  ∃ c ∈ text, c = '\n' ∨ c = '\r'

/-- The kinds of the tokens that all layout behind them belongs to, with the characters that they
start with. -/
inductive TakesLayout : TokenKind → Char → Prop
  | newline : TakesLayout .endOfLine '\n'
  | carriageReturn : TakesLayout .endOfLine '\r'
  | leftBrace : TakesLayout .leftBrace '\x7b'
  | rightBrace : TakesLayout .rightBrace '\x7d'

theorem TakesLayout.readPlain {kind : TokenKind} {c : Char} (h : TakesLayout kind c)
    (keywords : Keywords) (cs : List Char) :
    Lexeme.readPlain keywords (c :: cs) = Lexeme.readLayout kind c cs := by
  cases h
  all_goals rfl

theorem TakesLayout.isTerminal {kind : TokenKind} {c : Char} (h : TakesLayout kind c) :
    kind.isTerminal = false := by
  cases h
  all_goals rfl

theorem TakesLayout.isSpacing {kind : TokenKind} {c : Char} (h : TakesLayout kind c) :
    isSpacing c = false := by
  cases h
  all_goals rfl

theorem TakesLayout.ne_quote {kind : TokenKind} {c : Char} (h : TakesLayout kind c) :
    kind ≠ .quote := by
  rintro rfl
  cases h

theorem isLayout_of_takesLayout_endOfLine {c : Char} (h : TakesLayout .endOfLine c) :
    isLayout c = true := by
  cases h
  all_goals rfl

namespace Scanner

/-- The kinds and literals of the tokens that are left to a scanner. -/
def reading (scanner : Scanner) : List (TokenKind × String) :=
  (TokenStream.ofScanner scanner).drain.1.map fun token => (token.kind, token.literal)

section

variable {a b : Scanner}

theorem isTerminal_congr (h : a.lexeme = b.lexeme) :
    a.token.isTerminal = b.token.isTerminal := by
  rw [Token.isTerminal, Token.isTerminal, token, token, h]

theorem told_congr (h : a.lexeme = b.lexeme) :
    (a.token.kind, a.token.literal) = (b.token.kind, b.token.literal) := by
  rw [token, token, h]

/-- What a scanner reads depends on the text behind its gap and on the region around it, but not on
its place. -/
theorem reading_congr (hk : a.keywords = b.keywords) (hr : a.region = b.region)
    (ha : a.afterGap = b.afterGap) : a.reading = b.reading := by
  refine TokenStream.drain_induction (motive := fun a tokens => ∀ b : Scanner,
    a.keywords = b.keywords → a.region = b.region → a.afterGap = b.afterGap →
      tokens.map (fun token => (token.kind, token.literal)) = b.reading)
    (fun a ht b hk hr ha => ?_) (fun a tokens ht ih b hk hr ha => ?_) a b hk hr ha
  · have hl : a.lexeme = b.lexeme := by rw [lexeme, lexeme, hk, hr, ha]
    have hb : b.token.isTerminal = true := (isTerminal_congr hl).symm.trans ht
    rw [reading, TokenStream.drain_of_isTerminal hb, List.map_singleton, List.map_singleton,
      told_congr hl]
  · have hl : a.lexeme = b.lexeme := by rw [lexeme, lexeme, hk, hr, ha]
    have hb : b.token.isTerminal = false := (isTerminal_congr hl).symm.trans ht
    have hnr : a.next.region = b.next.region := by rw [next, next, hl, hr]
    have hna : a.next.afterGap = b.next.afterGap := by
      rw [afterGap, afterGap, hnr, next, next, hl]
    have hn := ih b.next hk hnr hna
    rw [reading, TokenStream.drain_of_not_isTerminal hb, List.map_cons, List.map_cons, hn,
      told_congr hl]
    rfl

end

variable {scanner : Scanner}

theorem reading_of_not_isTerminal (h : scanner.token.isTerminal = false) :
    scanner.reading = (scanner.token.kind, scanner.token.literal) :: scanner.next.reading := by
  rw [reading, TokenStream.drain_of_not_isTerminal h]
  rfl

/-- Line ends and braces are read outside of quoted regions, from the characters that announce
them. -/
theorem exists_takesLayout (h : scanner.token.kind = .endOfLine ∨
    scanner.token.kind = .leftBrace ∨ scanner.token.kind = .rightBrace) :
    scanner.region = none ∧ ∃ c cs, scanner.afterGap = c :: cs ∧
      TakesLayout scanner.token.kind c := by
  have hs := scanner.token_spelled
  have whole : scanner.lexeme.text ++ scanner.next.rest = scanner.afterGap :=
    Lexeme.read_text_append _ _ _
  rw [← whole]
  generalize scanner.token.kind = kind at h hs ⊢
  generalize scanner.token.literal.toList = literal at hs
  generalize scanner.lexeme.text = text at hs ⊢
  generalize scanner.next.rest = rest at hs ⊢
  generalize scanner.region = region at hs ⊢
  rcases h with rfl | rfl | rfl
  · cases hs with
    | endOfLine hc =>
      rcases hc with rfl | rfl
      · exact ⟨rfl, _, _, rfl, .newline⟩
      · exact ⟨rfl, _, _, rfl, .carriageReturn⟩
    | word hk => simp at hk
  · cases hs with
    | leftBrace => exact ⟨rfl, _, _, rfl, .leftBrace⟩
    | word hk => simp at hk
  · cases hs with
    | rightBrace => exact ⟨rfl, _, _, rfl, .rightBrace⟩
    | word hk => simp at hk

theorem lexeme_of_takesLayout {kind : TokenKind} {c : Char} {cs : List Char}
    (hr : scanner.region = none) (ha : scanner.afterGap = c :: cs) (h : TakesLayout kind c) :
    scanner.lexeme = Lexeme.readLayout kind c cs := by
  rw [lexeme, hr, ha]
  exact h.readPlain scanner.keywords cs

theorem dropWhile_isSpacing_of_isLayout (text : List Char) :
    (text.dropWhile isLayout).dropWhile isSpacing = text.dropWhile isLayout := by
  have hh := List.head?_dropWhile_not isLayout text
  cases hd : text.dropWhile isLayout with
  | nil => rfl
  | cons c cs =>
    rw [hd] at hh
    have hc : isSpacing c = false := by
      have hl : isLayout c = false := by simpa using hh
      simp only [isLayout, Bool.or_eq_false_iff] at hl
      simp [isSpacing, hl]
    rw [List.dropWhile_cons_of_neg (by simp [hc])]

theorem next_of_takesLayout {kind : TokenKind} {c : Char} {cs : List Char}
    (hr : scanner.region = none) (ha : scanner.afterGap = c :: cs) (h : TakesLayout kind c) :
    scanner.next.region = none ∧ scanner.next.afterGap = cs.dropWhile isLayout := by
  have hl := lexeme_of_takesLayout hr ha h
  have hk : scanner.token.kind ≠ .quote := by
    rw [token, hl]
    exact h.ne_quote
  have hn : scanner.next.region = none := (region_next_of_ne_quote hk).trans hr
  have hrest : scanner.next.rest = cs.dropWhile isLayout := by
    rw [next, hl]
    rfl
  refine ⟨hn, ?_⟩
  rw [afterGap, hn, hrest]
  exact dropWhile_isSpacing_of_isLayout cs

/-- Where a token takes layout, it does not matter how much of it there is. -/
theorem reading_of_takesLayout {a b : Scanner} {kind : TokenKind} {c d : Char} {cs ds : List Char}
    (hk : a.keywords = b.keywords) (har : a.region = none) (hbr : b.region = none)
    (ha : a.afterGap = c :: cs) (hb : b.afterGap = d :: ds) (hc : TakesLayout kind c)
    (hd : TakesLayout kind d) (h : cs.dropWhile isLayout = ds.dropWhile isLayout) :
    a.reading = b.reading := by
  have hal := lexeme_of_takesLayout har ha hc
  have hbl := lexeme_of_takesLayout hbr hb hd
  obtain ⟨hanr, hana⟩ := next_of_takesLayout har ha hc
  obtain ⟨hbnr, hbna⟩ := next_of_takesLayout hbr hb hd
  have hnext : a.next.reading = b.next.reading :=
    reading_congr hk (hanr.trans hbnr.symm) (by rw [hana, hbna, h])
  have hat : a.token.isTerminal = false := by
    rw [Token.isTerminal, token, hal]
    exact hc.isTerminal
  have hbt : b.token.isTerminal = false := by
    rw [Token.isTerminal, token, hbl]
    exact hd.isTerminal
  rw [reading_of_not_isTerminal hat, reading_of_not_isTerminal hbt, hnext, token, token, hal, hbl]
  rfl

/-- Layout with a line end in it starts with spacing, and goes on with the first line end. -/
theorem exists_first_lineEnd {layout : List Char} (hl : ∀ c ∈ layout, isLayout c = true)
    (he : HasLineEnd layout) (text : List Char) : ∃ c after,
      (layout ++ text).dropWhile isSpacing = c :: (after ++ text) ∧ TakesLayout .endOfLine c ∧
      ∀ d ∈ after, isLayout d = true := by
  induction layout with
  | nil =>
    obtain ⟨c, hc, -⟩ := he
    exact absurd hc List.not_mem_nil
  | cons c cs ih =>
    obtain ⟨hc, hcs⟩ := List.forall_mem_cons.mp hl
    rcases isSpacing_or_lineEnd hc with hs | hend
    · have hrest : HasLineEnd cs := by
        obtain ⟨d, hd, hend⟩ := he
        rcases List.mem_cons.mp hd with rfl | hd
        · rcases hend with rfl | rfl
          · cases hs
          · cases hs
        · exact ⟨d, hd, hend⟩
      obtain ⟨d, after, hd, htakes, ha⟩ := ih hcs hrest
      exact ⟨d, after, by rw [List.cons_append, List.dropWhile_cons_of_pos hs, hd], htakes, ha⟩
    · have htakes : TakesLayout .endOfLine c := by
        rcases hend with rfl | rfl
        · exact .newline
        · exact .carriageReturn
      have hs : ¬ isSpacing c = true := by simp [htakes.isSpacing]
      exact ⟨c, cs, by rw [List.cons_append, List.dropWhile_cons_of_neg hs], htakes, hcs⟩

theorem isSpacing_of_not_hasLineEnd {layout : List Char} (hl : ∀ c ∈ layout, isLayout c = true)
    (he : ¬ HasLineEnd layout) : ∀ c ∈ layout, isSpacing c = true :=
  fun c hc => (isSpacing_or_lineEnd (hl c hc)).resolve_right fun hend => he ⟨c, hc, hend⟩

/-- No line end stands right behind another one or behind a brace. -/
theorem kind_next_ne_endOfLine (h : scanner.token.kind = .endOfLine ∨
    scanner.token.kind = .leftBrace ∨ scanner.token.kind = .rightBrace) :
    scanner.next.token.kind ≠ .endOfLine := by
  intro hk
  obtain ⟨hr, c, cs, ha, hc⟩ := exists_takesLayout h
  obtain ⟨-, hrest⟩ := next_of_takesLayout hr ha hc
  obtain ⟨-, d, ds, hd, htakes⟩ := exists_takesLayout (Or.inl hk)
  rw [hk] at htakes
  have hlayout := isLayout_of_takesLayout_endOfLine htakes
  have hhead := List.head?_dropWhile_not isLayout cs
  rw [← hrest, hd] at hhead
  simp [hlayout] at hhead

end Scanner

/-- The second token is no line end behind another one or behind a brace. -/
def Token.NotCollapsible (first second : Token) : Prop :=
  second.kind = .endOfLine →
    first.kind ≠ .endOfLine ∧ first.kind ≠ .leftBrace ∧ first.kind ≠ .rightBrace

theorem TokenStream.drain_notCollapsible (scanner : Scanner) :
    (ofScanner scanner).drain.1.IsChain Token.NotCollapsible := by
  -- the first token is told as well, since it decides what may stand in front of it
  have h : (ofScanner scanner).drain.1.head? = some scanner.token ∧
      (ofScanner scanner).drain.1.IsChain Token.NotCollapsible := by
    refine drain_induction (motive := fun scanner tokens => tokens.head? = some scanner.token ∧
      tokens.IsChain Token.NotCollapsible) (fun scanner _ => ⟨rfl, List.isChain_singleton _⟩)
      (fun scanner tokens _ ih => ⟨rfl, List.isChain_cons.mpr ⟨fun second hs hk => ?_, ih.2⟩⟩)
      scanner
    obtain rfl : scanner.next.token = second := Option.some.inj (ih.1.symm.trans hs)
    have hapart := mt Scanner.kind_next_ne_endOfLine (not_not.mpr hk)
    simpa only [not_or] using hapart
  exact h.2

/-- How much layout there is makes no difference to the kinds and literals of the tokens behind it,
as long as there is a line end in it or there is none; directly behind a brace not even that counts.
So no line end follows on a line end or on a brace. -/
theorem layout_collapses :
    (∀ scanner : Scanner, scanner.isQuoted = false → ∀ first second text : List Char,
      (∀ c ∈ first, isLayout c = true) → (∀ c ∈ second, isLayout c = true) →
      ((HasLineEnd first ↔ HasLineEnd second) →
        { scanner with rest := first ++ text }.reading =
          { scanner with rest := second ++ text }.reading) ∧
      ∀ brace, brace = '\x7b' ∨ brace = '\x7d' →
        { scanner with rest := brace :: (first ++ text) }.reading =
          { scanner with rest := brace :: (second ++ text) }.reading) ∧
    ∀ keywords source, (tokenize keywords source).IsChain Token.NotCollapsible := by
  refine ⟨fun scanner hq first second text hf hs => ?_,
    fun keywords source => TokenStream.drain_notCollapsible _⟩
  have hr : scanner.region = none := Scanner.region_of_not_isQuoted hq
  have hgap (rest : List Char) :
      { scanner with rest := rest }.afterGap = rest.dropWhile isSpacing := by
    rw [Scanner.afterGap, hr]
  have hdrop : (first ++ text).dropWhile isLayout = (second ++ text).dropWhile isLayout := by
    rw [List.dropWhile_append_of_pos hf, List.dropWhile_append_of_pos hs]
  refine ⟨fun hiff => ?_, fun brace hb => ?_⟩
  · by_cases he : HasLineEnd first
    · obtain ⟨c, cs, hc, hct, hcs⟩ := Scanner.exists_first_lineEnd hf he text
      obtain ⟨d, ds, hd, hdt, hds⟩ := Scanner.exists_first_lineEnd hs (hiff.mp he) text
      have hafter : (cs ++ text).dropWhile isLayout = (ds ++ text).dropWhile isLayout := by
        rw [List.dropWhile_append_of_pos hcs, List.dropWhile_append_of_pos hds]
      exact Scanner.reading_of_takesLayout rfl hr hr ((hgap _).trans hc) ((hgap _).trans hd) hct
        hdt hafter
    · have hfs := Scanner.isSpacing_of_not_hasLineEnd hf he
      have hss := Scanner.isSpacing_of_not_hasLineEnd hs (mt hiff.mpr he)
      refine Scanner.reading_congr rfl rfl ?_
      rw [hgap, hgap, List.dropWhile_append_of_pos hfs, List.dropWhile_append_of_pos hss]
  · obtain ⟨kind, ht⟩ : ∃ kind, TakesLayout kind brace := by
      rcases hb with rfl | rfl
      · exact ⟨_, .leftBrace⟩
      · exact ⟨_, .rightBrace⟩
    have hbrace (rest : List Char) :
        { scanner with rest := brace :: rest }.afterGap = brace :: rest := by
      rw [hgap, List.dropWhile_cons_of_neg (by simp [ht.isSpacing])]
    exact Scanner.reading_of_takesLayout rfl hr hr (hbrace _) (hbrace _) ht ht hdrop

end RequestScript
