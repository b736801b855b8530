import Mathlib.Data.List.Induction
import RequestScript.Proofs.Token.Concatenation

namespace RequestScript

namespace Position

/-- The order of places in a text. -/
def Before (a b : Position) : Prop :=
  a.line < b.line ∨ a.line = b.line ∧ a.column < b.column

theorem Before.trans {a b c : Position} (hab : a.Before b) (hbc : b.Before c) : a.Before c := by
  unfold Before at hab hbc ⊢
  omega

theorem before_step (position : Position) (c : Char) : position.Before (position.step c) := by
  unfold Before step
  split
  · exact Or.inl (Nat.lt_succ_self _)
  · exact Or.inr ⟨rfl, Nat.lt_succ_self _⟩

/-- A text that is not empty leads to a later place. -/
theorem before_after (position : Position) {text : List Char} (h : text ≠ []) :
    position.Before (position.after text) := by
  induction text generalizing position with
  | nil => exact absurd rfl h
  | cons c cs ih =>
    have hc := position.before_step c
    by_cases hcs : cs = []
    · subst hcs
      exact hc
    · have hr : (position.step c).Before ((position.step c).after cs) := ih (position.step c) hcs
      exact hc.trans hr

theorem column_after_start (text : List Char) :
    (start.after text).column = 1 + (text.reverse.takeWhile (· != '\n')).length := by
  induction text using List.reverseRecOn with
  | nil => rfl
  | append_singleton text c ih =>
    have hs : start.after (text ++ [c]) = (start.after text).step c := after_append start text [c]
    rw [hs, List.reverse_append, List.reverse_singleton, List.singleton_append, List.takeWhile_cons]
    unfold step
    by_cases hc : c = '\n'
    · subst hc
      rfl
    · have hne : (c != '\n') = true := bne_iff_ne.mpr hc
      rw [if_neg hc, if_pos hne, List.length_cons]
      have hcolumn : (start.after text).column + 1 =
          1 + (text.reverse.takeWhile (· != '\n')).length + 1 := by rw [ih]
      exact hcolumn

/-- The line behind a text counts its newlines, and the column what stands behind the last one. -/
theorem start_after (text : List Char) : start.after text =
    ⟨1 + text.count '\n', 1 + (text.reverse.takeWhile (· != '\n')).length⟩ := by
  have hl : (start.after text).line = 1 + text.count '\n' := line_after start text
  have hc := column_after_start text
  generalize start.after text = position at hl hc
  obtain ⟨line, column⟩ := position
  dsimp only at hl hc
  rw [hl, hc]

end Position

namespace Scanner

variable {scanner : Scanner}

/-- What a scanner has passed of its source brings it to its position. -/
theorem exists_passed (keywords : Keywords) (source : String) (n : Nat) :
    ∃ passed, stripMark source.toList = passed ++ (next^[n] (ofSource keywords source)).rest ∧
      (next^[n] (ofSource keywords source)).position = Position.start.after passed := by
  induction n with
  | zero => exact ⟨[], rfl, rfl⟩
  | succ n ih =>
    obtain ⟨passed, hs, hp⟩ := ih
    rw [Function.iterate_succ_apply']
    generalize next^[n] (ofSource keywords source) = scanner at hs hp
    have hr := scanner.gap_append_text_append_rest
    refine ⟨passed ++ (scanner.gap ++ scanner.lexeme.text), ?_, ?_⟩
    · rw [hs, ← hr, List.append_assoc, List.append_assoc]
    · have hn : scanner.next.position =
          (scanner.position.after scanner.gap).after scanner.lexeme.text := rfl
      rw [hn, hp, Position.after_append, Position.after_append]

/-- The place of a scanner in its source, in bytes. -/
def cursor (source : String) (scanner : Scanner) : String.Pos.Raw :=
  ⟨source.utf8ByteSize - (String.ofList scanner.rest).utf8ByteSize⟩

theorem rest_suffix (keywords : Keywords) (source : String) (n : Nat) :
    (next^[n] (ofSource keywords source)).rest <:+ source.toList := by
  obtain ⟨passed, hs, -⟩ := exists_passed keywords source n
  have hstrip : stripMark source.toList <:+ source.toList := by
    cases source.toList with
    | nil => exact List.suffix_refl _
    | cons c cs =>
      rw [stripMark]
      split
      · exact List.suffix_cons c cs
      · exact List.suffix_refl _
  exact List.IsSuffix.trans ⟨passed, hs.symm⟩ hstrip

theorem cursor_isValid {source : String} (h : scanner.rest <:+ source.toList) :
    (scanner.cursor source).IsValid source := by
  obtain ⟨passed, hp⟩ := h
  have hs : source = String.ofList passed ++ String.ofList scanner.rest := by
    rw [← String.ofList_append, hp, String.ofList_toList]
  refine String.Pos.Raw.isValid_iff_exists_append.mpr ⟨_, _, hs, ?_⟩
  have hb := congrArg String.utf8ByteSize hs
  rw [String.utf8ByteSize_append] at hb
  rw [cursor, hb, Nat.add_sub_cancel]
  rfl

theorem cursor_le_next (source : String) (scanner : Scanner) :
    scanner.cursor source ≤ scanner.next.cursor source := by
  have hr := congrArg (fun text => (String.ofList text).utf8ByteSize)
    scanner.gap_append_text_append_rest
  simp only [String.ofList_append, String.utf8ByteSize_append] at hr
  rw [String.Pos.Raw.le_iff, cursor, cursor]
  dsimp only
  omega

/-- A call at the end of the input gives no text, and leaves the scanner where it is. -/
theorem lexeme_of_afterGap_eq_nil (h : scanner.afterGap = []) :
    scanner.lexeme = ⟨if scanner.isQuoted then .invalid else .endOfInput, [], [], []⟩ := by
  unfold lexeme isQuoted
  rw [h]
  cases scanner.region with
  | none => rfl
  | some sigil => rfl

theorem next_of_afterGap_eq_nil (h : scanner.afterGap = []) :
    scanner.next = ⟨scanner.keywords, [], scanner.position.after scanner.gap, scanner.region⟩ := by
  have hl := lexeme_of_afterGap_eq_nil h
  have hk : scanner.lexeme.kind ≠ .quote := by
    rw [hl]
    dsimp only
    split
    · exact fun he => by cases he
    · exact fun he => by cases he
  have ha : scanner.lexeme.regionAfter scanner.region = scanner.region := if_neg hk
  rw [next, ha, hl]
  rfl

theorem gap_of_rest_eq_nil (h : scanner.rest = []) : scanner.gap = [] := by
  unfold gap
  rw [h]
  cases scanner.region with
  | none => rfl
  | some sigil => rfl

theorem afterGap_of_rest_eq_nil (h : scanner.rest = []) : scanner.afterGap = [] := by
  have hr := scanner.gap_append_afterGap
  rw [h] at hr
  exact (List.append_eq_nil_iff.mp hr).2

theorem token_next_of_afterGap_eq_nil (h : scanner.afterGap = []) :
    scanner.next.token = scanner.token := by
  have hn := next_of_afterGap_eq_nil h
  have hr : scanner.next.rest = [] := by rw [hn]
  have hq : scanner.next.isQuoted = scanner.isQuoted := by
    rw [hn]
    rfl
  have hp : scanner.next.position = scanner.position.after scanner.gap := by rw [hn]
  rw [token, token, lexeme_of_afterGap_eq_nil (afterGap_of_rest_eq_nil hr),
    lexeme_of_afterGap_eq_nil h, hq, gap_of_rest_eq_nil hr, hp]
  rfl

/-- At the end of the input all later calls give the same token again. -/
theorem token_iterate_of_afterGap_eq_nil (h : scanner.afterGap = []) (n : Nat) :
    (next^[n] scanner).token = scanner.token := by
  induction n generalizing scanner with
  | zero => rfl
  | succ n ih =>
    have hr : scanner.next.rest = [] := by rw [next_of_afterGap_eq_nil h]
    rw [Function.iterate_succ_apply, ih (afterGap_of_rest_eq_nil hr),
      token_next_of_afterGap_eq_nil h]

theorem before_next_position (h : scanner.token.isTerminal = false) :
    scanner.token.position.Before scanner.next.position := by
  have ha : scanner.afterGap ≠ [] := by
    intro hn
    rw [isTerminal_of_afterGap_eq_nil hn] at h
    cases h
  exact Position.before_after _ (lexeme_text_ne_nil ha)

theorem position_le_token (scanner : Scanner) :
    scanner.position = scanner.token.position ∨ scanner.position.Before scanner.token.position := by
  by_cases hg : scanner.gap = []
  · left
    have ht : scanner.token.position = scanner.position.after scanner.gap := rfl
    rw [ht, hg]
    rfl
  · right
    exact Position.before_after _ hg

end Scanner

namespace TokenStream

/-- The stream after one more request for a token. -/
def advance (stream : TokenStream) : TokenStream :=
  match stream.next? with
  | none => stream
  | some (_, after) => after

theorem advance_finished (scanner : Scanner) :
    (⟨scanner, true⟩ : TokenStream).advance = ⟨scanner, true⟩ := rfl

theorem advance_ofScanner (scanner : Scanner) :
    (ofScanner scanner).advance = ⟨scanner.next, scanner.token.isTerminal⟩ := rfl

theorem next?_iterate_finished (scanner : Scanner) (n : Nat) :
    (advance^[n] ⟨scanner, true⟩).next? = none := by
  rw [Function.iterate_fixed (advance_finished scanner) n]
  rfl

/-- Asked again and again, a stream gives its tokens one after the other, and then none any more. -/
theorem next?_iterate_advance (scanner : Scanner) (n : Nat) :
    (advance^[n] (ofScanner scanner)).next?.map Prod.fst = (ofScanner scanner).drain.1[n]? := by
  refine drain_induction (motive := fun scanner tokens =>
    ∀ n, (advance^[n] (ofScanner scanner)).next?.map Prod.fst = tokens[n]?)
    (fun scanner ht n => ?_) (fun scanner tokens ht ih n => ?_) scanner n
  · cases n with
    | zero => rfl
    | succ n =>
      rw [Function.iterate_succ_apply, advance_ofScanner, ht, next?_iterate_finished]
      rfl
  · cases n with
    | zero => rfl
    | succ n =>
      rw [Function.iterate_succ_apply, advance_ofScanner, ht, List.getElem?_cons_succ]
      exact ih n

theorem drain_length_le (scanner : Scanner) :
    (ofScanner scanner).drain.1.length ≤ scanner.rest.length + 1 := by
  refine drain_induction (motive := fun scanner tokens => tokens.length ≤ scanner.rest.length + 1)
    (fun scanner _ => Nat.le_add_left 1 _) (fun scanner tokens ht ih => ?_) scanner
  have hlt := Scanner.next_rest_length_lt ht
  rw [List.length_cons]
  omega

/-- A stream ends with its only terminal token. -/
theorem drain_eq_append_terminal (scanner : Scanner) :
    ∃ front last, (ofScanner scanner).drain.1 = front ++ [last] ∧ last.isTerminal = true ∧
      ∀ token ∈ front, token.isTerminal = false := by
  refine drain_induction (motive := fun _ tokens => ∃ front last, tokens = front ++ [last] ∧
    last.isTerminal = true ∧ ∀ token ∈ front, token.isTerminal = false)
    (fun scanner ht => ⟨[], scanner.token, rfl, ht, fun token hm => by cases hm⟩)
    (fun scanner tokens ht ih => ?_) scanner
  obtain ⟨front, last, rfl, hl, hf⟩ := ih
  refine ⟨scanner.token :: front, last, rfl, hl, fun token hm => ?_⟩
  rcases List.mem_cons.mp hm with rfl | hm
  · exact ht
  · exact hf token hm

theorem drain_ascending (scanner : Scanner) :
    (ofScanner scanner).drain.1.Pairwise fun a b => a.position.Before b.position := by
  -- all tokens stand at or behind the place where the scanner is
  have h : (∀ token ∈ (ofScanner scanner).drain.1,
      scanner.position = token.position ∨ scanner.position.Before token.position) ∧
      (ofScanner scanner).drain.1.Pairwise fun a b => a.position.Before b.position := by
    refine drain_induction (motive := fun scanner tokens => (∀ token ∈ tokens,
      scanner.position = token.position ∨ scanner.position.Before token.position) ∧
      tokens.Pairwise fun a b => a.position.Before b.position)
      (fun scanner _ => ⟨fun token hm => ?_, List.pairwise_singleton _ _⟩)
      (fun scanner tokens ht ih => ?_) scanner
    · rw [List.mem_singleton.mp hm]
      exact scanner.position_le_token
    · obtain ⟨hpos, hpair⟩ := ih
      have hlater : ∀ token ∈ tokens, scanner.token.position.Before token.position := by
        intro token hm
        have hb := Scanner.before_next_position ht
        rcases hpos token hm with he | hn
        · rwa [← he]
        · exact hb.trans hn
      refine ⟨fun token hm => ?_, List.pairwise_cons.mpr ⟨hlater, hpair⟩⟩
      rcases List.mem_cons.mp hm with rfl | hm
      · exact scanner.position_le_token
      · rcases scanner.position_le_token with he | hb
        · exact Or.inr (he ▸ hlater token hm)
        · exact Or.inr (hb.trans (hlater token hm))
  exact h.2

end TokenStream

/-- A scanner goes forward through its source, also when it is asked for tokens behind a terminal
one: each call passes some text behind the place of its token, but for the calls at the end of the
input, which all give one token. Its tokens come at increasing places, and the last of them is the
only terminal one. -/
theorem scanning_advances (keywords : Keywords) (source : String) :
    let start := Scanner.ofSource keywords source
    let stop (n : Nat) := Scanner.next^[n] start
    let tokens := tokenize keywords source
    (∀ n, ((stop n).cursor source).IsValid source ∧
      (stop n).cursor source ≤ (stop (n + 1)).cursor source) ∧
    (∀ n, ∃ before, Scanner.stripMark source.toList = before ++ (stop n).afterGap ∧
      (stop n).token.position =
        ⟨1 + before.count '\n', 1 + (before.reverse.takeWhile (· != '\n')).length⟩) ∧
    (∀ n, (stop n).afterGap ≠ [] →
      ∃ read, read ≠ [] ∧ (stop n).afterGap = read ++ (stop (n + 1)).rest) ∧
    (∀ n, (stop n).afterGap = [] →
      (stop n).token.kind = (if (stop n).isQuoted then .invalid else .endOfInput) ∧
      (stop n).token.literal = "" ∧ ∀ m, (stop (n + m)).token = (stop n).token) ∧
    tokens.length ≤ source.length + 1 ∧
    (∃ front last, tokens = front ++ [last] ∧ last.isTerminal = true ∧
      ∀ token ∈ front, token.isTerminal = false) ∧
    (tokens.Pairwise fun a b => a.position.Before b.position) ∧
    ∀ n, (TokenStream.advance^[n] (.ofScanner start)).next?.map Prod.fst = tokens[n]? := by
  intro start stop tokens
  have hsucc (n : Nat) : stop (n + 1) = (stop n).next := Function.iterate_succ_apply' _ _ _
  refine ⟨fun n => ⟨?_, ?_⟩, fun n => ?_, fun n ha => ?_, fun n ha => ⟨?_, ?_, fun m => ?_⟩, ?_,
    TokenStream.drain_eq_append_terminal start, TokenStream.drain_ascending start,
    TokenStream.next?_iterate_advance start⟩
  · exact Scanner.cursor_isValid (Scanner.rest_suffix keywords source n)
  · rw [hsucc]
    exact Scanner.cursor_le_next source (stop n)
  · obtain ⟨passed, hs, hp⟩ := Scanner.exists_passed keywords source n
    refine ⟨passed ++ (stop n).gap, ?_, ?_⟩
    · rw [hs, ← (stop n).gap_append_afterGap, List.append_assoc]
    · have ht : (stop n).token.position = (stop n).position.after (stop n).gap := rfl
      rw [ht, hp, ← Position.after_append, Position.start_after]
  · rw [hsucc]
    exact ⟨(stop n).lexeme.text, Scanner.lexeme_text_ne_nil ha,
      (Lexeme.read_text_append _ _ _).symm⟩
  · exact congrArg Lexeme.kind (Scanner.lexeme_of_afterGap_eq_nil ha)
  · exact congrArg (fun lexeme => String.ofList lexeme.literal)
      (Scanner.lexeme_of_afterGap_eq_nil ha)
  · have hm : stop (n + m) = Scanner.next^[m] (stop n) := by
      rw [Nat.add_comm, ← Function.iterate_add_apply]
    rw [hm, Scanner.token_iterate_of_afterGap_eq_nil ha]
  · have hlength : tokens.length ≤ (Scanner.stripMark source.toList).length + 1 :=
      TokenStream.drain_length_le start
    have hsuffix := (Scanner.rest_suffix keywords source 0).length_le
    exact Nat.le_trans hlength (Nat.add_le_add_right hsuffix 1)

end RequestScript
