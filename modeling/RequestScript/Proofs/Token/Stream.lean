import Mathlib.Data.List.Iterate
import RequestScript.Proofs.Token.Spelling

namespace RequestScript

namespace TokenStream

theorem drain_finished (scanner : Scanner) :
    (⟨scanner, true⟩ : TokenStream).drain = ([], ⟨scanner, true⟩) := by
  unfold drain
  rfl

theorem drain_ofScanner (scanner : Scanner) :
    (ofScanner scanner).drain.1 = scanner.token ::
      (⟨scanner.next, scanner.token.isTerminal⟩ : TokenStream).drain.1 := by
  conv => lhs; unfold drain
  rfl

theorem drain_of_isTerminal {scanner : Scanner} (h : scanner.token.isTerminal = true) :
    (ofScanner scanner).drain.1 = [scanner.token] := by
  rw [drain_ofScanner, h, drain_finished]

theorem drain_of_not_isTerminal {scanner : Scanner} (h : scanner.token.isTerminal = false) :
    (ofScanner scanner).drain.1 = scanner.token :: (ofScanner scanner.next).drain.1 := by
  rw [drain_ofScanner, h]
  rfl

/-- What holds of the terminal tokens and passes from the tokens behind a first one to all of them
holds of every source. -/
theorem drain_induction {motive : Scanner → List Token → Prop}
    (hlast : ∀ scanner, scanner.token.isTerminal = true → motive scanner [scanner.token])
    (hstep : ∀ scanner tokens, scanner.token.isTerminal = false → motive scanner.next tokens →
      motive scanner (scanner.token :: tokens)) (scanner : Scanner) :
    motive scanner (ofScanner scanner).drain.1 := by
  cases ht : scanner.token.isTerminal with
  | true =>
    rw [drain_of_isTerminal ht]
    exact hlast scanner ht
  | false =>
    rw [drain_of_not_isTerminal ht]
    exact hstep scanner _ ht (drain_induction hlast hstep scanner.next)
termination_by scanner.rest.length
decreasing_by exact Scanner.next_rest_length_lt ht

/-- A change of scanners that passes from each to the next one changes the tokens one by one. -/
theorem drain_map {f : Scanner → Scanner} {g : Token → Token}
    (ht : ∀ scanner, (f scanner).token = g scanner.token)
    (hn : ∀ scanner, (f scanner).next = f scanner.next)
    (hg : ∀ token, (g token).isTerminal = token.isTerminal) (scanner : Scanner) :
    (ofScanner (f scanner)).drain.1 = (ofScanner scanner).drain.1.map g := by
  refine drain_induction (motive := fun scanner tokens =>
    (ofScanner (f scanner)).drain.1 = tokens.map g)
    (fun scanner hl => ?_) (fun scanner tokens hl ih => ?_) scanner
  · have hf : (f scanner).token.isTerminal = true := by rw [ht, hg, hl]
    rw [drain_of_isTerminal hf, ht, List.map_singleton]
  · have hf : (f scanner).token.isTerminal = false := by rw [ht, hg, hl]
    rw [drain_of_not_isTerminal hf, ht, hn, ih, List.map_cons]

end TokenStream

namespace Scanner

theorem eq_of_mem_gap {scanner : Scanner} {c : Char} (h : c ∈ scanner.gap) : c = ' ' ∨ c = '\t' := by
  unfold gap at h
  split at h
  next => simpa [isSpacing] using List.mem_takeWhile_imp h
  next => exact absurd h List.not_mem_nil

theorem gap_of_isQuoted {scanner : Scanner} (h : scanner.isQuoted = true) : scanner.gap = [] := by
  obtain ⟨sigil, hs⟩ := Option.isSome_iff_exists.mp h
  unfold gap
  rw [hs]

theorem lexeme_spelled (scanner : Scanner) : Spelling scanner.region scanner.lexeme := by
  refine Lexeme.read_spelled scanner.keywords fun hr c hc => ?_
  obtain ⟨cs, hcs⟩ := List.head?_eq_some_iff.mp hc
  exact not_isSpacing_of_afterGap hr hcs

theorem token_spelled (scanner : Scanner) :
    Spelling scanner.region ⟨scanner.token.kind, scanner.token.literal.toList,
      scanner.lexeme.text, scanner.next.rest⟩ := by
  have h := scanner.lexeme_spelled
  rwa [show scanner.lexeme = ⟨scanner.token.kind, scanner.token.literal.toList,
    scanner.lexeme.text, scanner.next.rest⟩ by simp [token, next]] at h

theorem next_rest_of_endOfInput {scanner : Scanner} (h : scanner.token.kind = .endOfInput) :
    scanner.next.rest = [] := by
  have hs := scanner.token_spelled
  rw [h] at hs
  exact hs.rest_of_endOfInput

theorem stops_tile (scanner : Scanner) (n : Nat) :
    scanner.rest = (List.iterate next scanner n).flatMap
      (fun stop => stop.gap ++ stop.lexeme.text) ++ (next^[n] scanner).rest := by
  induction n generalizing scanner with
  | zero => rfl
  | succ n ih =>
    rw [List.iterate, List.flatMap_cons, List.append_assoc, Function.iterate_succ_apply, ← ih,
      List.append_assoc, gap_append_text_append_rest]

end Scanner

theorem TokenStream.drain_stops (scanner : Scanner) :
    (ofScanner scanner).drain.1 =
      (List.iterate Scanner.next scanner (ofScanner scanner).drain.1.length).map Scanner.token ∧
    ∀ token, (ofScanner scanner).drain.1.getLast? = some token → token.kind = .endOfInput →
      (Scanner.next^[(ofScanner scanner).drain.1.length] scanner).rest = [] := by
  refine drain_induction (motive := fun scanner tokens =>
    tokens = (List.iterate Scanner.next scanner tokens.length).map Scanner.token ∧
    ∀ token, tokens.getLast? = some token → token.kind = .endOfInput →
      (Scanner.next^[tokens.length] scanner).rest = []) (fun scanner _ => ⟨rfl, ?_⟩)
    (fun scanner tokens ht ih => ⟨?_, ?_⟩) scanner
  · intro token hl hk
    obtain rfl : scanner.token = token := by simpa using hl
    exact Scanner.next_rest_of_endOfInput hk
  · rw [List.length_cons, List.iterate, List.map_cons, ← ih.1]
  · intro token hl hk
    cases tokens with
    | nil =>
      obtain rfl : scanner.token = token := by simpa using hl
      simp [Token.isTerminal, TokenKind.isTerminal, hk] at ht
    | cons second rest => exact ih.2 token (by simpa using hl) hk

/-- The tokens of a source tile it: the spacing in front of each token and the text that it is
spelled by make up the source, and nothing is left behind the end of input. -/
theorem tokenize_tiles (keywords : Keywords) (source : String) :
    let start := Scanner.ofSource keywords source
    let tokens := tokenize keywords source
    let stops := List.iterate Scanner.next start tokens.length
    tokens = stops.map Scanner.token ∧
    Scanner.stripMark source.toList = stops.flatMap (fun stop => stop.gap ++ stop.lexeme.text) ++
      (Scanner.next^[tokens.length] start).rest ∧
    (∀ stop ∈ stops, stop.rest = stop.gap ++ (stop.lexeme.text ++ stop.next.rest) ∧
      (∀ c ∈ stop.gap, c = ' ' ∨ c = '\t') ∧ (stop.isQuoted = true → stop.gap = []) ∧
      Spelling stop.region ⟨stop.token.kind, stop.token.literal.toList, stop.lexeme.text,
        stop.next.rest⟩) ∧
    (tokens.getLast?.map Token.kind = some .endOfInput →
      (Scanner.next^[tokens.length] start).rest = []) := by
  intro start tokens stops
  obtain ⟨ht, hl⟩ := TokenStream.drain_stops start
  refine ⟨ht, start.stops_tile tokens.length, fun stop _ => ?_, fun hk => ?_⟩
  · exact ⟨stop.gap_append_text_append_rest.symm, fun c hc => Scanner.eq_of_mem_gap hc,
      Scanner.gap_of_isQuoted, stop.token_spelled⟩
  · obtain ⟨token, hlast, hkind⟩ := Option.map_eq_some_iff.mp hk
    exact hl token hlast hkind

end RequestScript
