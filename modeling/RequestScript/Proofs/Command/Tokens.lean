import Mathlib.Data.List.Basic
import RequestScript.Proofs.Command.Outcome
import RequestScript.Proofs.Text.Utf8
import RequestScript.Proofs.Token.Display
import RequestScript.Proofs.Token.Progress

namespace RequestScript

namespace Command

/-- Texts that have each been put on a line are told apart by the line breaks. -/
theorem splitOn_lines {texts : List String} (h : ∀ text ∈ texts, '\n' ∉ text.toList) :
    (lines texts).toList.splitOn '\n' = texts.map String.toList ++ [[]] := by
  induction texts with
  | nil => rfl
  | cons text rest ih =>
    have hl : (lines (text :: rest)).toList = text.toList ++ '\n' :: (lines rest).toList := by
      simp [lines]
    rw [hl, List.splitOn_append_cons_self_of_not_mem (h text List.mem_cons_self),
      ih fun other ho => h other (List.mem_cons_of_mem _ ho)]
    rfl

theorem splitOn_lines_display (tokens : List Token) :
    (lines (tokens.map Token.display)).toList.splitOn '\n' =
      tokens.map (fun token => token.display.toList) ++ [[]] := by
  rw [splitOn_lines, List.map_map]
  · rfl
  · intro text ht
    obtain ⟨token, -, rfl⟩ := List.mem_map.mp ht
    exact fun hm => Token.not_isLineBreak_of_mem_display hm (Or.inl rfl)

/-- Tokens are known from their lines. -/
theorem lines_display_injective {tokens others : List Token}
    (h : lines (tokens.map Token.display) = lines (others.map Token.display)) :
    tokens = others := by
  have hs := congrArg (fun text => text.toList.splitOn '\n') h
  simp only [splitOn_lines_display] at hs
  refine List.map_injective_iff.mpr (fun token other ho => ?_) (List.append_cancel_right hs)
  exact Token.display_injective (String.toList_injective ho)

theorem code_reportTokens {front : List Token} {terminal : Token}
    (hfront : ∀ token ∈ front, token.isTerminal = false)
    (hterminal : terminal.isTerminal = true) (file : String) :
    (reportTokens file (front ++ [terminal])).outcome.code = 0 ↔ terminal.kind = .endOfInput := by
  rw [code_outcome_eq_zero_iff]
  show (invalidToken? (front ++ [terminal])).map _ = none ↔ _
  rw [Option.map_eq_none_iff, invalidToken?_append hfront]
  by_cases hk : terminal.kind = .invalid
  · simp [hk]
  · have he : terminal.kind = .endOfInput := by
      simpa [Token.isTerminal, TokenKind.isTerminal, hk] using hterminal
    simp [he]

/-- The second word of the last line is the kind of the last token. -/
theorem lastLine_iff (front : List Token) (terminal : Token) (kind : TokenKind) :
    (∃ before line, (lines ((front ++ [terminal]).map Token.display)).toList.splitOn '\n' =
        before ++ [line, []] ∧ Token.secondWord line = kind.name.toList) ↔
      terminal.kind = kind := by
  have hs : (lines ((front ++ [terminal]).map Token.display)).toList.splitOn '\n' =
      front.map (fun token => token.display.toList) ++ [terminal.display.toList, []] := by
    rw [splitOn_lines_display, List.map_append, List.append_assoc]
    rfl
  rw [hs]
  constructor
  · rintro ⟨before, line, hl, hw⟩
    obtain ⟨-, hl⟩ := List.append_inj' hl rfl
    rw [← (List.cons.inj hl).1, Token.secondWord_display] at hw
    exact TokenKind.name_injective (String.toList_injective hw)
  · rintro rfl
    exact ⟨_, _, rfl, Token.secondWord_display terminal⟩

theorem run_report_tokens {σ : Type} {respond : σ → (request : HostRequest) → σ × request.Answer}
    {opened last : σ} {file source : String} {settings : Settings} (tag : List Char)
    (h : (HostProgram.readText (.ofString file)).run respond opened = (last, .ok source)) :
    ((Task.tokens file).report settings tag).run respond opened =
      (last, reportTokens file (tokenize settings.reserved source)) := by
  show ((tokensOf settings file).bind _).run respond opened = _
  rw [Program.run_bind, run_tokensOf h]
  rfl

/-- A token is known from its line, and no line is broken. So what is written about a file has one
line for each of its tokens and would not be written about any other tokens; and the last line is
one of the end of input if and only if the task succeeds. -/
theorem token_lines_unambiguous :
    (∀ token other : Token, token.display = other.display → token = other) ∧
    (∀ token : Token, '\n' ∉ token.display.toList ∧ '\r' ∉ token.display.toList) ∧
    ∀ (σ : Type) (respond : σ → (request : HostRequest) → σ × request.Answer)
      (start opened last : σ) (arguments rest : List String) (config : Option String)
      (file source : String) (settings : Settings) (tag : List Char),
      takeSettings? arguments = some (config, rest) →
      Task.ofArguments? rest = some (.tokens file) →
      (settingsFrom config).run respond start = (opened, .ok settings) →
      (HostProgram.readText (.ofString file)).run respond opened = (last, .ok source) →
      ∃ outcome text, (run tag arguments).run respond start = (last, outcome) ∧
        outcome.output = utf8Bytes text ∧
        text.toList.splitOn '\n' =
          (tokenize settings.reserved source).map (fun token => token.display.toList) ++ [[]] ∧
        (∀ tokens, outcome.output = utf8Bytes (lines (tokens.map Token.display)) →
          tokens = tokenize settings.reserved source) ∧
        (outcome.code = 0 ↔ ∃ before line, text.toList.splitOn '\n' = before ++ [line, []] ∧
          Token.secondWord line = "EOF".toList) := by
  refine ⟨fun token other h => Token.display_injective h, fun token =>
    ⟨fun h => Token.not_isLineBreak_of_mem_display h (Or.inl rfl),
      fun h => Token.not_isLineBreak_of_mem_display h (Or.inr rfl)⟩, ?_⟩
  intro σ respond start opened last arguments rest config file source settings tag hc ht hs hr
  have hrun := run_of_report hc ht hs (run_report_tokens tag hr)
  obtain ⟨front, terminal, hd, hterminal, hfront⟩ := TokenStream.drain_eq_append_terminal
    (.ofSource settings.reserved source)
  have htokens : tokenize settings.reserved source = front ++ [terminal] := hd
  have hcode := code_reportTokens hfront hterminal file
  rw [← lastLine_iff front terminal, ← htokens] at hcode
  refine ⟨_, lines ((tokenize settings.reserved source).map Token.display), hrun,
    output_outcome _, splitOn_lines_display _, fun tokens h => ?_, hcode⟩
  rw [output_outcome] at h
  have hl := encodeText_injective h
  exact (lines_display_injective (String.toList_injective hl)).symm

/-- A machine on which every file has the same text, and which cannot be changed. -/
def textHost (text : String) : Unit → (request : HostRequest) → Unit × request.Answer
  | _, .now => ((), ⟨1, 250000000, by decide, by decide, by decide⟩)
  | _, .read _ => ((), .ok (utf8Bytes text))
  | _, .create _ | _, .write _ _ | _, .flush _ | _, .rename _ _ | _, .remove _
  | _, .makeDirectory _ => ((), .error .notADirectory)
  | _, .isThere _ | _, .isFile _ => ((), true)
  | _, .isDirectory _ => ((), false)

/-- A line break and a quotation mark inside of a string stay on the line of the string. -/
theorem token_lines_unambiguous_sample :
    ∃ outcome, (run [] ["tokens", "f"]).run (textHost "'\"\n'@") () = ((), outcome) ∧
      outcome.output = utf8Bytes "1:1 STRING \"\\\"\\n\"\n2:2 INVALID\n" ∧
      outcome.code ≠ 0 ∧
      ∀ tokens, outcome.output = utf8Bytes (lines (tokens.map Token.display)) →
        tokens = tokenize Settings.default.reserved "'\"\n'@" := by
  have hr : (HostProgram.readText (.ofString "f")).run (textHost "'\"\n'@") () =
      ((), .ok "'\"\n'@") := by decide +kernel
  obtain ⟨outcome, -, hrun, -, -, honly, -⟩ :=
    token_lines_unambiguous.2.2 Unit (textHost "'\"\n'@") () () () ["tokens", "f"]
      ["tokens", "f"] none "f" "'\"\n'@" .default [] rfl rfl rfl hr
  have ho : outcome = ((run [] ["tokens", "f"]).run (textHost "'\"\n'@") ()).2 := by rw [hrun]
  refine ⟨outcome, hrun, ?_, ?_, honly⟩
  · rw [ho]
    decide +kernel
  · rw [ho]
    decide +kernel

end Command

end RequestScript
