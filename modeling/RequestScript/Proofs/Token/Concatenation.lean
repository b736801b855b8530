import RequestScript.Proofs.Token.Seam
import RequestScript.Proofs.Token.Stream

namespace RequestScript

namespace Position

/-- The place a number of lines further down. -/
def lower (lines : Nat) (position : Position) : Position :=
  ⟨position.line + lines, position.column⟩

theorem after_lower (lines : Nat) (position : Position) (text : List Char) :
    (position.lower lines).after text = (position.after text).lower lines := by
  induction text generalizing position with
  | nil => rfl
  | cons c cs ih =>
    have hs : (position.lower lines).step c = (position.step c).lower lines := by
      unfold step lower
      split
      · simp only [Nat.add_right_comm]
      · rfl
    have hi := ih (position.step c)
    rw [← hs] at hi
    exact hi

/-- A text leads as many lines down as it has newlines, and a newline to the first column. -/
theorem line_after (position : Position) (text : List Char) :
    (position.after text).line = position.line + text.count '\n' := by
  induction text generalizing position with
  | nil => rfl
  | cons c cs ih =>
    have hi : (position.after (c :: cs)).line = (position.step c).line + cs.count '\n' :=
      ih (position.step c)
    rw [hi, List.count_cons]
    unfold step
    by_cases hc : c = '\n'
    · rw [if_pos hc, hc, beq_self_eq_true, if_pos rfl, Nat.add_assoc, Nat.add_comm 1]
    · rw [if_neg hc, beq_false_of_ne hc, if_neg Bool.false_ne_true]
      rfl

theorem after_newline (position : Position) (text : List Char) :
    position.after (text ++ ['\n']) = ⟨position.line + (1 + text.count '\n'), 1⟩ := by
  have hs : position.after (text ++ ['\n']) = ⟨(position.after text).line + 1, 1⟩ :=
    after_append position text ['\n']
  rw [hs, line_after, Nat.add_comm 1, Nat.add_assoc]

end Position

namespace Token

def isLineEnd (token : Token) : Bool :=
  token.kind == .endOfLine

def isEnd (token : Token) : Bool :=
  token.kind == .endOfInput

/-- The token a number of lines further down. -/
def lower (lines : Nat) (token : Token) : Token :=
  { token with position := token.position.lower lines }

/-- The tokens that are no line ends. -/
def withoutLineEnds (tokens : List Token) : List Token :=
  tokens.filter fun token => !token.isLineEnd

end Token

namespace Scanner

/-- The scanner a number of lines further down. -/
def lower (lines : Nat) (scanner : Scanner) : Scanner :=
  { scanner with position := scanner.position.lower lines }

theorem token_lower (lines : Nat) (scanner : Scanner) :
    (scanner.lower lines).token = scanner.token.lower lines := by
  have hp : (scanner.position.lower lines).after scanner.gap =
      (scanner.position.after scanner.gap).lower lines := Position.after_lower lines _ _
  exact congrArg (Token.mk scanner.lexeme.kind (String.ofList scanner.lexeme.literal)) hp

theorem next_lower (lines : Nat) (scanner : Scanner) :
    (scanner.lower lines).next = scanner.next.lower lines := by
  have hp : ((scanner.position.lower lines).after scanner.gap).after scanner.lexeme.text =
      ((scanner.position.after scanner.gap).after scanner.lexeme.text).lower lines := by
    rw [Position.after_lower, Position.after_lower]
  exact congrArg (fun position => Scanner.mk scanner.keywords scanner.lexeme.rest position
    (scanner.lexeme.regionAfter scanner.region)) hp

/-- The tokens of a scanner depend on its lines only by their own. -/
theorem drain_lower (lines : Nat) (scanner : Scanner) :
    (TokenStream.ofScanner (scanner.lower lines)).drain.1 =
      (TokenStream.ofScanner scanner).drain.1.map (Token.lower lines) :=
  TokenStream.drain_map (token_lower lines) (next_lower lines) (fun _ => rfl) scanner

/-- The tokens that are left to a scanner and are no line ends. -/
def content (scanner : Scanner) : List Token :=
  Token.withoutLineEnds (TokenStream.ofScanner scanner).drain.1

theorem content_congr {a b : Scanner} (ht : a.token = b.token) (hn : a.next = b.next) :
    a.content = b.content := by
  rw [content, content, TokenStream.drain_ofScanner, TokenStream.drain_ofScanner, ht, hn]

theorem content_of_isLineEnd {scanner : Scanner} (h : scanner.token.isLineEnd = true) :
    scanner.content = scanner.next.content := by
  have ht : scanner.token.isTerminal = false := by
    have hk : scanner.token.kind = .endOfLine := beq_iff_eq.mp h
    rw [Token.isTerminal, hk]
    rfl
  have hd : scanner.content = Token.withoutLineEnds (scanner.token ::
      (TokenStream.ofScanner scanner.next).drain.1) := by
    rw [content, TokenStream.drain_of_not_isTerminal ht]
  rw [hd, Token.withoutLineEnds, List.filter_cons, h]
  rfl

variable (keywords : Keywords)

theorem content_spacing {c : Char} (hc : isSpacing c = true) (text : List Char)
    (position : Position) : (Scanner.mk keywords (c :: text) position none).content =
      (Scanner.mk keywords text (position.step c) none).content := by
  have hg : (Scanner.mk keywords (c :: text) position none).gap =
      c :: (Scanner.mk keywords text (position.step c) none).gap := by
    simp [gap, hc]
  have ha : (Scanner.mk keywords (c :: text) position none).afterGap =
      (Scanner.mk keywords text (position.step c) none).afterGap := by
    simp [afterGap, hc]
  have hl : (Scanner.mk keywords (c :: text) position none).lexeme =
      (Scanner.mk keywords text (position.step c) none).lexeme := by
    rw [lexeme, ha]
    rfl
  refine content_congr ?_ ?_
  · rw [token, token, hl, hg]
    rfl
  · rw [next, next, hl, hg]
    rfl

theorem lexeme_lineEnd {c : Char} (hc : c = '\n' ∨ c = '\r') (text : List Char)
    (position : Position) : (Scanner.mk keywords (c :: text) position none).lexeme =
      Lexeme.readLayout .endOfLine c text := by
  rcases hc with rfl | rfl
  · rfl
  · rfl

theorem content_lineEnd {c : Char} (hc : c = '\n' ∨ c = '\r') (text : List Char)
    (position : Position) : (Scanner.mk keywords (c :: text) position none).content =
      (Scanner.mk keywords (text.dropWhile isLayout)
        (position.after (c :: text.takeWhile isLayout)) none).content := by
  have hl := lexeme_lineEnd keywords hc text position
  have hg : (Scanner.mk keywords (c :: text) position none).gap = [] := by
    rcases hc with rfl | rfl
    · rfl
    · rfl
  have ht : (Scanner.mk keywords (c :: text) position none).token.isLineEnd = true := by
    rw [token, hl]
    rfl
  rw [content_of_isLineEnd ht, next, hl, hg]
  rfl

theorem isSpacing_or_lineEnd {c : Char} (h : isLayout c = true) :
    isSpacing c = true ∨ c = '\n' ∨ c = '\r' := by
  simp only [isLayout, Bool.or_eq_true, beq_iff_eq] at h
  rcases h with ((rfl | rfl) | rfl) | rfl
  · exact Or.inl rfl
  · exact Or.inl rfl
  · exact Or.inr (Or.inr rfl)
  · exact Or.inr (Or.inl rfl)

theorem content_dropWhile_isLayout (text : List Char) (position : Position) :
    (Scanner.mk keywords text position none).content =
      (Scanner.mk keywords (text.dropWhile isLayout)
        (position.after (text.takeWhile isLayout)) none).content := by
  induction text generalizing position with
  | nil => rfl
  | cons c cs ih =>
    rw [List.dropWhile_cons, List.takeWhile_cons]
    split
    next hc =>
      rcases isSpacing_or_lineEnd hc with hs | he
      · rw [content_spacing keywords hs, ih]
        rfl
      · rw [content_lineEnd keywords he]
    next => rfl

/-- Layout in front of a text adds nothing to its tokens but line ends. -/
theorem content_layout {layout : List Char} (hl : ∀ c ∈ layout, isLayout c = true)
    (text : List Char) (position : Position) :
    (Scanner.mk keywords (layout ++ text) position none).content =
      (Scanner.mk keywords text (position.after layout) none).content := by
  rw [content_dropWhile_isLayout, content_dropWhile_isLayout keywords text,
    List.dropWhile_append_of_pos hl, List.takeWhile_append_of_pos hl, Position.after_append]

variable {keywords} {scanner : Scanner}

/-- The end of the input is read only outside of quoted regions, with nothing but spacing left. -/
theorem of_endOfInput (h : scanner.token.kind = .endOfInput) :
    scanner.region = none ∧ scanner.afterGap = [] := by
  have hs := scanner.token_spelled
  have hw : scanner.lexeme.text ++ scanner.next.rest = scanner.afterGap :=
    Lexeme.read_text_append _ _ _
  rw [h] at hs
  generalize scanner.region = region at hs ⊢
  generalize scanner.token.literal.toList = literal at hs
  generalize scanner.lexeme.text = text at hs hw
  generalize scanner.next.rest = rest at hs hw
  cases hs with
  | endOfInput => exact ⟨rfl, hw.symm⟩
  | word hk => simp at hk

/-- Whether the tokens that are left to a scanner lead to the end of the input. -/
def EndsWell (scanner : Scanner) : Prop :=
  (TokenStream.ofScanner scanner).drain.1.getLast?.map Token.kind = some .endOfInput

theorem kind_of_endsWell (h : scanner.EndsWell) (ht : scanner.token.isTerminal = true) :
    scanner.token.kind = .endOfInput := by
  rw [EndsWell, TokenStream.drain_of_isTerminal ht] at h
  exact Option.some.inj h

theorem next_endsWell (h : scanner.EndsWell) (ht : scanner.token.isTerminal = false) :
    scanner.next.EndsWell := by
  rw [EndsWell, TokenStream.drain_of_not_isTerminal ht, TokenStream.drain_ofScanner,
    List.getLast?_cons_cons] at h
  rw [EndsWell, TokenStream.drain_ofScanner]
  exact h

theorem region_of_endsWell (h : scanner.EndsWell) (hr : scanner.rest = []) :
    scanner.region = none := by
  have ha : scanner.afterGap = [] := by
    unfold afterGap
    split
    · rw [hr, List.dropWhile_nil]
    · exact hr
  exact (of_endOfInput (kind_of_endsWell h (isTerminal_of_afterGap_eq_nil ha))).1

theorem content_of_not_isTerminal (h : scanner.token.isTerminal = false) :
    scanner.content = Token.withoutLineEnds [scanner.token] ++ scanner.next.content := by
  rw [content, TokenStream.drain_of_not_isTerminal h, Token.withoutLineEnds,
    ← List.singleton_append, List.filter_append]
  rfl

/-- The scanner with a newline and more text behind what is left to it. -/
def followedBy (scanner : Scanner) (behind : List Char) : Scanner :=
  { scanner with rest := scanner.rest ++ '\n' :: behind }

theorem gap_followedBy (scanner : Scanner) (behind : List Char) :
    (scanner.followedBy behind).gap = scanner.gap := by
  unfold gap followedBy
  cases scanner.region with
  | none => exact takeWhile_append_stop (by decide) scanner.rest behind
  | some sigil => rfl

theorem afterGap_followedBy (scanner : Scanner) (behind : List Char) :
    (scanner.followedBy behind).afterGap = scanner.afterGap ++ '\n' :: behind := by
  unfold afterGap followedBy
  cases scanner.region with
  | none => exact dropWhile_append_stop (by decide) scanner.rest behind
  | some sigil => rfl

theorem lexeme_followedBy (h : scanner.token.isTerminal = false) (behind : List Char) :
    Lexeme.Meets behind scanner.lexeme (scanner.followedBy behind).lexeme := by
  have hn : scanner.afterGap ≠ [] := by
    intro ha
    rw [isTerminal_of_afterGap_eq_nil ha] at h
    cases h
  have hk : scanner.lexeme.kind ≠ .invalid := by
    intro hi
    have ht : scanner.token.isTerminal = true := by
      rw [Token.isTerminal, show scanner.token.kind = .invalid from hi]
      rfl
    rw [ht] at h
    cases h
  rw [lexeme, lexeme, afterGap_followedBy]
  exact Lexeme.read_meets scanner.keywords scanner.region hn hk behind

theorem token_followedBy (h : scanner.token.isTerminal = false) (behind : List Char) :
    (scanner.followedBy behind).token = scanner.token := by
  have hm := lexeme_followedBy h behind
  rw [token, token, gap_followedBy, hm.kind_eq, hm.literal_eq]
  rfl

/-- Behind a token it makes no difference whether a newline is left or has been taken with it. -/
theorem content_next_followedBy (h : scanner.token.isTerminal = false)
    (hr : scanner.next.rest = [] → scanner.next.region = none) (behind : List Char) :
    (scanner.followedBy behind).next.content = (scanner.next.followedBy behind).content := by
  have hm := lexeme_followedBy h behind
  have hn : (scanner.followedBy behind).next =
      ⟨scanner.keywords, (scanner.followedBy behind).lexeme.rest,
        (scanner.position.after scanner.gap).after (scanner.followedBy behind).lexeme.text,
        (scanner.followedBy behind).lexeme.regionAfter scanner.region⟩ := by
    rw [next, gap_followedBy]
    rfl
  rw [hn]
  generalize (scanner.followedBy behind).lexeme = long at hm
  cases hm with
  | apart => rfl
  | @joined layout rest hrest hk hl hb =>
    have hnone : scanner.region = none := by
      have hrn := hr hrest
      simpa only [next, Lexeme.regionAfter, if_neg hk] using hrn
    have hf : scanner.next.followedBy behind =
        ⟨scanner.keywords, ('\n' :: layout) ++ rest,
          (scanner.position.after scanner.gap).after scanner.lexeme.text, none⟩ := by
      have hrn := hr hrest
      rw [followedBy, hrn]
      simp only [next, hrest, hb, List.nil_append, List.cons_append]
    have hlayout : ∀ c ∈ '\n' :: layout, isLayout c = true := by
      intro c hc
      rcases List.mem_cons.mp hc with rfl | hc
      · rfl
      · exact hl c hc
    rw [hf, content_layout scanner.keywords hlayout]
    simp only [Lexeme.regionAfter, if_neg hk, hnone, Position.after_append]

theorem content_followedBy_of_end (h : scanner.token.kind = .endOfInput) (behind : List Char) :
    (scanner.followedBy behind).content =
      (Scanner.mk scanner.keywords behind (scanner.position.after (scanner.rest ++ ['\n']))
        none).content := by
  obtain ⟨hnone, ha⟩ := of_endOfInput h
  have hrest : scanner.rest = scanner.gap := by
    rw [← scanner.gap_append_afterGap, ha, List.append_nil]
  have hl : ∀ c ∈ scanner.rest ++ ['\n'], isLayout c = true := by
    intro c hc
    rcases List.mem_append.mp hc with hc | hc
    · rw [hrest] at hc
      rcases eq_of_mem_gap hc with rfl | rfl
      · rfl
      · rfl
    · rw [List.mem_singleton.mp hc]
      rfl
  have hf : scanner.followedBy behind =
      ⟨scanner.keywords, (scanner.rest ++ ['\n']) ++ behind, scanner.position, none⟩ := by
    rw [followedBy, hnone, List.append_assoc]
    rfl
  rw [hf, content_layout scanner.keywords hl]

theorem content_of_end (h : scanner.token.kind = .endOfInput) :
    (scanner.content.filter fun token => !token.isEnd) = [] := by
  have ht : scanner.token.isTerminal = true := by
    rw [Token.isTerminal, h]
    rfl
  rw [content, TokenStream.drain_of_isTerminal ht, Token.withoutLineEnds]
  simp [Token.isLineEnd, Token.isEnd, h]

theorem filter_content_of_not_isTerminal (h : scanner.token.isTerminal = false) :
    (scanner.content.filter fun token => !token.isEnd) =
      Token.withoutLineEnds [scanner.token] ++
        scanner.next.content.filter fun token => !token.isEnd := by
  have he : (Token.withoutLineEnds [scanner.token]).filter (fun token => !token.isEnd) =
      Token.withoutLineEnds [scanner.token] := by
    refine List.filter_eq_self.mpr fun token hm => ?_
    rw [List.mem_singleton.mp ((List.mem_filter.mp hm).1)]
    rw [Token.isTerminal, TokenKind.isTerminal, Bool.or_eq_false_iff] at h
    rw [Token.isEnd, h.1]
    rfl
  rw [content_of_not_isTerminal h, List.filter_append, he]

/-- The tokens in front of a newline are those of the text in front of it, and the tokens behind it
are those of the text behind it, line ends and the first end of input apart. -/
theorem content_followedBy (scanner : Scanner) (h : scanner.EndsWell) (behind : List Char) :
    (scanner.followedBy behind).content =
      (scanner.content.filter fun token => !token.isEnd) ++
        (Scanner.mk scanner.keywords behind (scanner.position.after (scanner.rest ++ ['\n']))
          none).content := by
  cases ht : scanner.token.isTerminal with
  | true =>
    have hk := kind_of_endsWell h ht
    rw [content_of_end hk, List.nil_append, content_followedBy_of_end hk]
  | false =>
    have hn := next_endsWell h ht
    have ih := content_followedBy scanner.next hn behind
    have hp : scanner.next.position.after (scanner.next.rest ++ ['\n']) =
        scanner.position.after (scanner.rest ++ ['\n']) := by
      rw [← scanner.gap_append_text_append_rest, Position.after_append, Position.after_append,
        Position.after_append, Position.after_append]
      rfl
    rw [content_of_not_isTerminal (by rw [token_followedBy ht, ht]), token_followedBy ht,
      content_next_followedBy ht (region_of_endsWell hn), ih, hp,
      filter_content_of_not_isTerminal ht, List.append_assoc]
    rfl
termination_by scanner.rest.length
decreasing_by exact next_rest_length_lt ht

theorem content_lower (lines : Nat) (scanner : Scanner) :
    (scanner.lower lines).content = scanner.content.map (Token.lower lines) := by
  rw [content, content, drain_lower, Token.withoutLineEnds, Token.withoutLineEnds,
    List.filter_map]
  rfl

theorem stripMark_seam (text behind : List Char) :
    stripMark (text ++ '\n' :: behind) = stripMark text ++ '\n' :: behind := by
  cases text with
  | nil => rfl
  | cons c cs =>
    simp only [List.cons_append, stripMark]
    split
    · rfl
    · rfl

theorem count_stripMark (text : List Char) :
    (stripMark text).count '\n' = text.count '\n' := by
  cases text with
  | nil => rfl
  | cons c cs =>
    rw [stripMark]
    split
    next hc =>
      rw [hc, List.count_cons_of_ne (by decide)]
    next => rfl

theorem stripMark_of_ne {text : List Char} (h : text.head? ≠ some '\ufeff') :
    stripMark text = text := by
  cases text with
  | nil => rfl
  | cons c cs =>
    have hc : c ≠ '\ufeff' := fun he => h (by rw [he]; rfl)
    rw [stripMark, if_neg hc]

end Scanner

/-- Two sources that are put together with a newline between them have the tokens of the one and
then, further down, the tokens of the other, if line ends do not count. -/
theorem tokenize_append_newline (keywords : Keywords) {first second : String}
    (hf : (tokenize keywords first).getLast?.map Token.kind = some .endOfInput)
    (hs : second.toList.head? ≠ some '\ufeff') :
    Token.withoutLineEnds (tokenize keywords (first ++ "\n" ++ second)) =
      ((Token.withoutLineEnds (tokenize keywords first)).filter fun token => !token.isEnd) ++
        (Token.withoutLineEnds (tokenize keywords second)).map
          (Token.lower (1 + first.toList.count '\n')) := by
  have hsource : Scanner.ofSource keywords (first ++ "\n" ++ second) =
      (Scanner.ofSource keywords first).followedBy second.toList := by
    have hl : (first ++ "\n" ++ second).toList = first.toList ++ '\n' :: second.toList := by
      simp [String.toList_append]
    rw [Scanner.ofSource, hl, Scanner.stripMark_seam]
    rfl
  have hlower : (⟨keywords, second.toList,
      Position.start.after (Scanner.stripMark first.toList ++ ['\n']), none⟩ : Scanner) =
        (Scanner.ofSource keywords second).lower (1 + first.toList.count '\n') := by
    rw [Position.after_newline, Scanner.count_stripMark, Scanner.ofSource,
      Scanner.stripMark_of_ne hs]
    rfl
  have hc := Scanner.content_followedBy (.ofSource keywords first) hf second.toList
  rw [← hsource, show (Scanner.ofSource keywords first).keywords = keywords from rfl,
    show (Scanner.ofSource keywords first).position = .start from rfl,
    show (Scanner.ofSource keywords first).rest = Scanner.stripMark first.toList from rfl,
    hlower, Scanner.content_lower] at hc
  exact hc

/-- The brace takes the newline, and the other source ends inside a quotation. -/
theorem tokenize_append_newline_brace :
    let keywords := Keywords.ofList ["post"]
    (tokenize keywords "post \x7b").getLast?.map Token.kind = some .endOfInput ∧
    "\r\n $x 'y".toList.head? ≠ some '\ufeff' ∧
    Token.withoutLineEnds (tokenize keywords ("post \x7b" ++ "\n" ++ "\r\n $x 'y")) =
      ((Token.withoutLineEnds (tokenize keywords "post \x7b")).filter fun token => !token.isEnd) ++
        (Token.withoutLineEnds (tokenize keywords "\r\n $x 'y")).map
          (Token.lower (1 + "post \x7b".toList.count '\n')) := by
  intro keywords
  have hf : (tokenize keywords "post \x7b").getLast?.map Token.kind = some .endOfInput := by
    decide +kernel
  have hs : "\r\n $x 'y".toList.head? ≠ some '\ufeff' := by decide
  exact ⟨hf, hs, tokenize_append_newline keywords hf hs⟩

end RequestScript
