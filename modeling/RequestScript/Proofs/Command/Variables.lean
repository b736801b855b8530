import Mathlib.Data.List.Forall2
import RequestScript.Proofs.Command.Outcome
import RequestScript.Proofs.Environment
import RequestScript.Proofs.Token.Progress

namespace RequestScript

namespace Command

/-- The names of the variables in a row of tokens, each as often as it occurs. -/
def variableNames (tokens : List Token) : List String :=
  (tokens.filter fun token => token.kind == .variableName).map Token.literal

theorem variableNames_cons (token : Token) (rest : List Token) :
    variableNames (token :: rest) =
      if token.kind = .variableName then token.literal :: variableNames rest
      else variableNames rest := by
  unfold variableNames
  by_cases hk : token.kind = .variableName <;> simp [hk]

theorem mem_variableNames {tokens : List Token} {name : String} :
    name ∈ variableNames tokens ↔
      ∃ token ∈ tokens, token.kind = .variableName ∧ token.literal = name := by
  simp [variableNames, and_assoc]

/-- The first of some tokens for the variable of a name. -/
structure IsFirst (tokens : List Token) (name : String) (token : Token) : Prop where
  kind_eq : token.kind = .variableName
  literal_eq : token.literal = name
  first : ∃ before after, tokens = before ++ token :: after ∧ name ∉ variableNames before

theorem IsFirst.cons {head token : Token} {rest : List Token} {name : String}
    (h : IsFirst rest name token) (hn : name ∉ variableNames [head]) :
    IsFirst (head :: rest) name token := by
  obtain ⟨before, after, rfl, hb⟩ := h.first
  refine ⟨h.kind_eq, h.literal_eq, head :: before, after, rfl, ?_⟩
  rw [variableNames_cons] at hn ⊢
  split
  next hk =>
    rw [if_pos hk] at hn
    rintro (_ | ⟨_, hm⟩)
    · exact hn List.mem_cons_self
    · exact hb hm
  next => exact hb

theorem isFirst_of_mem_firstVariables {seen : List String} {tokens : List Token} {token : Token}
    (h : token ∈ firstVariables seen tokens) :
    token.literal ∉ seen ∧ IsFirst tokens token.literal token := by
  induction tokens generalizing seen with
  | nil => exact absurd h List.not_mem_nil
  | cons head rest ih =>
    rw [firstVariables] at h
    split at h
    next hh =>
      rcases List.mem_cons.mp h with rfl | hm
      · exact ⟨hh.2, hh.1, rfl, [], rest, rfl, List.not_mem_nil⟩
      · obtain ⟨hs, hf⟩ := ih hm
        rw [List.mem_cons, not_or] at hs
        refine ⟨hs.2, hf.cons ?_⟩
        rw [variableNames_cons, if_pos hh.1]
        exact List.mem_singleton.not.mpr hs.1
    next hh =>
      obtain ⟨hs, hf⟩ := ih h
      refine ⟨hs, hf.cons fun hm => ?_⟩
      -- a first variable that is passed over has been seen
      obtain ⟨other, hm, hk, hl⟩ := mem_variableNames.mp hm
      obtain rfl := List.mem_singleton.mp hm
      exact hh ⟨hk, hl ▸ hs⟩

/-- The first variables are those of the names in the order in which these come up. -/
theorem literal_firstVariables (seen : List String) (tokens : List Token) :
    (firstVariables seen tokens).map Token.literal =
      (firstOccurrences (variableNames tokens)).filter fun name => decide (name ∉ seen) := by
  induction tokens generalizing seen with
  | nil => rfl
  | cons head rest ih =>
    rw [firstVariables, variableNames_cons]
    by_cases hk : head.kind = .variableName
    · rw [if_pos hk, firstOccurrences, List.filter_cons, List.filter_filter]
      by_cases hs : head.literal ∈ seen
      · rw [if_neg (fun h => h.2 hs), if_neg (by simpa using hs), ih]
        refine List.filter_congr fun name _ => ?_
        have hne : name ∉ seen → name ≠ head.literal := fun hn he => hn (he ▸ hs)
        simpa using hne
      · rw [if_pos ⟨hk, hs⟩, if_pos (by simpa using hs), List.map_cons, ih]
        refine congrArg (List.cons _) (List.filter_congr fun name _ => ?_)
        rw [Bool.eq_iff_iff]
        simp [and_comm]
    · rw [if_neg hk, if_neg (fun h => hk h.1), ih]

theorem literal_firstVariables_nil (tokens : List Token) :
    (firstVariables [] tokens).map Token.literal = firstOccurrences (variableNames tokens) := by
  rw [literal_firstVariables]
  exact List.filter_eq_self.mpr fun name _ => decide_eq_true List.not_mem_nil

/-- The lines of the variables in a row of tokens that an environment defines. -/
def valueLines (env : Environment String) (tokens : List Token) : List String :=
  (firstOccurrences (variableNames tokens)).filterMap fun name =>
    (env.resolve name).toOption.map fun value => name ++ " = " ++ value

/-- The names of the variables in a row of tokens that an environment does not define. -/
def undefinedNames (env : Environment String) (tokens : List Token) : List String :=
  (firstOccurrences (variableNames tokens)).filter fun name => !env.contains name

/-- What is said of a variable that is not defined. -/
def complaintAt (file : String) (token : Token) : String :=
  placeText file token.position ++ ": identifier not defined: " ++ token.literal

/-- What is said of the variables in a row of tokens that an environment does not define. -/
def complaints (file : String) (env : Environment String) (tokens : List Token) : List String :=
  ((firstVariables [] tokens).filter fun token => !env.contains token.literal).map
    (complaintAt file)

variable {file : String} {env : Environment String} {tokens : List Token}

theorem variableLine_of_resolve {token : Token} {value : String}
    (h : env.resolve token.literal = .ok value) :
    variableLine file env token = .ok (token.literal ++ " = " ++ value) := by
  rw [variableLine, Word.expand, h]

theorem variableLine_of_not_contains {token : Token} (h : env.contains token.literal = false) :
    variableLine file env token = .error (complaintAt file token) := by
  have ht : (": " : String) ++ "identifier not defined: " = ": identifier not defined: " := by simp
  rw [variableLine, Word.expand, Environment.resolve_of_not_contains h, complaintAt, ← ht]
  show Except.error (placeText file token.position ++ ": " ++
    ("identifier not defined: " ++ token.literal)) = _
  simp only [String.append_assoc]

theorem forall₂_complaints (file : String) (env : Environment String) (tokens : List Token) :
    List.Forall₂ (fun name complaint => ∃ token, IsFirst tokens name token ∧
      complaint = placeText file token.position ++ ": identifier not defined: " ++ name)
      (undefinedNames env tokens) (complaints file env tokens) := by
  rw [undefinedNames, ← literal_firstVariables_nil, List.filter_map, complaints,
    List.forall₂_map_left_iff, List.forall₂_map_right_iff]
  refine List.forall₂_same.mpr fun token hm => ?_
  exact ⟨token, (isFirst_of_mem_firstVariables (List.mem_of_mem_filter hm)).2, rfl⟩

theorem valueLines_eq (file : String) (env : Environment String) (tokens : List Token) :
    valueLines env tokens =
      ((firstVariables [] tokens).map (variableLine file env)).filterMap Except.toOption := by
  rw [valueLines, ← literal_firstVariables_nil, List.filterMap_map, List.filterMap_map]
  refine List.filterMap_congr fun token _ => ?_
  show (env.resolve token.literal).toOption.map _ = (variableLine file env token).toOption
  cases hc : env.contains token.literal with
  | true =>
    obtain ⟨value, hr⟩ := Environment.exists_resolve_of_contains hc
    rw [variableLine_of_resolve hr, hr]
    rfl
  | false =>
    rw [variableLine_of_not_contains hc, Environment.resolve_of_not_contains hc]
    rfl

theorem filterMap_variableLine {complaint? : Except String String → Option String}
    (hok : ∀ line, complaint? (.ok line) = none)
    (herror : ∀ complaint, complaint? (.error complaint) = some complaint) (first : List Token) :
    (first.map (variableLine file env)).filterMap complaint? =
      (first.filter fun token => !env.contains token.literal).map (complaintAt file) := by
  induction first with
  | nil => rfl
  | cons token rest ih =>
    rw [List.map_cons, List.filterMap_cons, List.filter_cons, ih]
    cases hc : env.contains token.literal with
    | true =>
      obtain ⟨value, hr⟩ := Environment.exists_resolve_of_contains hc
      rw [variableLine_of_resolve hr, hok]
      rfl
    | false =>
      rw [variableLine_of_not_contains hc, herror]
      rfl

theorem reportVariables_eq (file : String) (env : Environment String) (tokens : List Token) :
    reportVariables file env tokens =
      ⟨utf8Bytes (lines (valueLines env tokens)), lines (complaints file env tokens),
        (tokenFailure? file tokens).or (if undefinedNames env tokens = [] then none
          else some (.undefinedVariables (undefinedNames env tokens).length))⟩ := by
  have hl := (forall₂_complaints file env tokens).length_eq
  have hc : complaints file env tokens = [] ↔ undefinedNames env tokens = [] := by
    rw [← List.length_eq_zero_iff, ← hl, List.length_eq_zero_iff]
  unfold reportVariables
  simp only [← valueLines_eq file]
  rw [filterMap_variableLine (fun _ => rfl) (fun _ => rfl), hl]
  simp only [← hc]
  rfl

theorem message_undefinedVariables (count : Nat) :
    (Failure.undefinedVariables count).message = toString count ++ " undefined variable(s)" := rfl

theorem undefinedNames_eq_nil_iff : undefinedNames env tokens = [] ↔
    ∀ token ∈ tokens, token.kind = .variableName → env.contains token.literal = true := by
  simp only [undefinedNames, List.filter_eq_nil_iff, mem_firstOccurrences, mem_variableNames,
    Bool.not_eq_true, Bool.not_eq_false']
  constructor
  · exact fun h token hm hk => h _ ⟨token, hm, hk, rfl⟩
  · rintro h _ ⟨token, hm, hk, rfl⟩
    exact h token hm hk

section

variable {front : List Token} (hfront : ∀ token ∈ front, token.isTerminal = false)

include hfront

theorem failure?_reportVariables (terminal : Token) (file : String) (env : Environment String) :
    (reportVariables file env (front ++ [terminal])).failure? =
      if terminal.kind = .invalid then some (.invalidToken file terminal.position)
      else if undefinedNames env (front ++ [terminal]) = [] then none
      else some (.undefinedVariables (undefinedNames env (front ++ [terminal])).length) := by
  rw [reportVariables_eq, tokenFailure?, invalidToken?_append hfront]
  split <;> rfl

theorem code_reportVariables {terminal : Token} (hterminal : terminal.isTerminal = true)
    (file : String) (env : Environment String) :
    (reportVariables file env (front ++ [terminal])).outcome.code = 0 ↔
      terminal.kind = .endOfInput ∧ undefinedNames env (front ++ [terminal]) = [] := by
  rw [code_outcome_eq_zero_iff, failure?_reportVariables hfront]
  by_cases hk : terminal.kind = .invalid
  · rw [if_pos hk, hk]
    simp
  · have he : terminal.kind = .endOfInput := by
      simpa [Token.isTerminal, TokenKind.isTerminal, hk] using hterminal
    rw [if_neg hk]
    split <;> simp_all

theorem errors_reportVariables_of_invalid {terminal : Token} (hk : terminal.kind = .invalid)
    (file : String) (env : Environment String) :
    (reportVariables file env (front ++ [terminal])).outcome.errors =
      lines (complaints file env (front ++ [terminal])) ++
        "reqdef: " ++ placeText file terminal.position ++ ": invalid token\n" := by
  have hf := failure?_reportVariables hfront terminal file env
  rw [if_pos hk] at hf
  have ht : (": invalid token" : String) ++ "\n" = ": invalid token\n" := by simp
  rw [errors_outcome_of_failure hf, reportVariables_eq, message_invalidToken]
  simp only [String.append_assoc, ht]

theorem errors_reportVariables_of_ne_invalid {terminal : Token} (hk : terminal.kind ≠ .invalid)
    (file : String) (env : Environment String) :
    (reportVariables file env (front ++ [terminal])).outcome.errors =
      lines (complaints file env (front ++ [terminal])) ++
        if undefinedNames env (front ++ [terminal]) = [] then ""
        else "reqdef: " ++ toString (undefinedNames env (front ++ [terminal])).length ++
          " undefined variable(s)\n" := by
  have hf := failure?_reportVariables hfront terminal file env
  rw [if_neg hk] at hf
  split at hf
  next hu => rw [errors_outcome_of_none hf, if_pos hu, reportVariables_eq, String.append_empty]
  next hu =>
    have ht : (" undefined variable(s)" : String) ++ "\n" = " undefined variable(s)\n" := by simp
    rw [errors_outcome_of_failure hf, if_neg hu, reportVariables_eq, message_undefinedVariables]
    simp only [String.append_assoc, ht]

end

section

variable {σ : Type} {respond : σ → (request : HostRequest) → σ × request.Answer}
  {start opened later last : σ} {arguments rest : List String} {config name : Option String}
  {source : String} {settings : Settings}

theorem run_report_expand (tag : List Char)
    (hr : (HostProgram.readText (.ofString file)).run respond opened = (later, .ok source))
    (he : (environmentFor settings file name).run respond later = (last, .ok env)) :
    ((Task.expand file name).report settings tag).run respond opened =
      (last, reportVariables file env (tokenize settings.reserved source)) := by
  show ((tokensOf settings file).bind _).run respond opened = _
  rw [Program.run_bind, run_tokensOf hr]
  show ((environmentFor settings file name).bind _).run respond later = _
  rw [Program.run_bind, he]
  rfl

/-- An expansion names each variable of its file once, in the order in which the variables come up:
with its value, if the environment defines it, or else with the place where it is named first. It
succeeds if and only if the tokens go up to the end of the file and every variable is defined; what
it says in the end is the place of the invalid token, if there is one, or the number of undefined
names. -/
theorem expansion_names_each_variable_once (tag : List Char)
    (hc : takeSettings? arguments = some (config, rest))
    (ht : Task.ofArguments? rest = some (.expand file name))
    (hs : (settingsFrom config).run respond start = (opened, .ok settings))
    (hr : (HostProgram.readText (.ofString file)).run respond opened = (later, .ok source))
    (he : (environmentFor settings file name).run respond later = (last, .ok env)) :
    let tokens := tokenize settings.reserved source
    let names := firstOccurrences (variableNames tokens)
    let undefined := names.filter fun name => !env.contains name
    ∃ outcome complaints, (run tag arguments).run respond start = (last, outcome) ∧
      (outcome.code = 0 ↔ tokens.getLast?.map Token.kind = some .endOfInput ∧
        ∀ token ∈ tokens, token.kind = .variableName → env.contains token.literal = true) ∧
      outcome.output = utf8Bytes (lines (names.filterMap fun name =>
        (env.resolve name).toOption.map fun value => name ++ " = " ++ value)) ∧
      List.Forall₂ (fun name complaint => ∃ token, IsFirst tokens name token ∧
        complaint = placeText file token.position ++ ": identifier not defined: " ++ name)
        undefined complaints ∧
      (∀ token ∈ tokens, token.kind = .invalid → outcome.errors = lines complaints ++
        "reqdef: " ++ placeText file token.position ++ ": invalid token\n") ∧
      ((∀ token ∈ tokens, token.kind ≠ .invalid) → outcome.errors = lines complaints ++
        if undefined = [] then ""
        else "reqdef: " ++ toString undefined.length ++ " undefined variable(s)\n") ∧
      ∃ front terminal, tokens = front ++ [terminal] ∧ terminal.isTerminal = true ∧
        ∀ token ∈ front, token.isTerminal = false := by
  intro tokens names undefined
  have hrun := run_of_report hc ht hs (run_report_expand tag hr he)
  obtain ⟨front, terminal, hd, hterminal, hfront⟩ := TokenStream.drain_eq_append_terminal
    (.ofSource settings.reserved source)
  change tokens = front ++ [terminal] at hd
  change (run tag arguments).run respond start = (last, (reportVariables file env tokens).outcome)
    at hrun
  have hcode := code_reportVariables hfront hterminal file env
  have hinvalid (hk : terminal.kind = .invalid) :=
    errors_reportVariables_of_invalid hfront hk file env
  have hvalid (hk : terminal.kind ≠ .invalid) :=
    errors_reportVariables_of_ne_invalid hfront hk file env
  rw [← hd] at hcode
  simp only [← hd] at hinvalid hvalid
  have hlast : tokens.getLast?.map Token.kind = some terminal.kind := by
    rw [hd, List.getLast?_concat]
    rfl
  refine ⟨_, complaints file env tokens, hrun, ?_, ?_, forall₂_complaints file env tokens,
    fun token hm hk => ?_, fun hn => hvalid (hn terminal (by rw [hd]; simp)),
    front, terminal, hd, hterminal, hfront⟩
  · rw [hcode, hlast, Option.some_inj, undefinedNames_eq_nil_iff]
  · rw [output_outcome, reportVariables_eq]
    rfl
  · rw [hd] at hm
    rcases List.mem_append.mp hm with hm | hm
    · have hf := hfront token hm
      rw [Token.isTerminal, hk] at hf
      cases hf
    · obtain rfl := List.mem_singleton.mp hm
      exact hinvalid hk

end

/-- A machine with a file to expand and an environment file, which cannot be changed. -/
def sampleHost : Unit → (request : HostRequest) → Unit × request.Answer
  | _, .now => ((), ⟨0, 500000000, by decide, by decide, by decide⟩)
  | _, .read path =>
    let text := if path.text = ['f'] then "$a\n$b $a" else "\x7b\"shared\":\x7b\"b\":1\x7d\x7d"
    ((), .ok (utf8Bytes text))
  | _, .create _ | _, .write _ _ | _, .flush _ | _, .rename _ _ | _, .remove _
  | _, .makeDirectory _ => ((), .error .notADirectory)
  | _, .isThere _ | _, .isFile _ => ((), true)
  | _, .isDirectory _ => ((), false)

/-- Of the variables `a` and `b` only the second one is defined. -/
theorem expansion_names_each_variable_once_sample :
    (HostProgram.readText (.ofString "f")).run sampleHost () = ((), .ok "$a\n$b $a") ∧
    ∃ env outcome, (environmentFor .default "f" none).run sampleHost () = ((), .ok env) ∧
      env.contains "a" = false ∧
      (run [] ["expand", "f"]).run sampleHost () = ((), outcome) ∧ outcome.code ≠ 0 ∧
      outcome.output = utf8Bytes "b = 1\n" ∧ outcome.errors =
        "f:1:1: identifier not defined: a\nreqdef: 1 undefined variable(s)\n" := by
  have hr : (HostProgram.readText (.ofString "f")).run sampleHost () =
      ((), .ok "$a\n$b $a") := by decide +kernel
  have hd : ((environmentFor .default "f" none).run sampleHost ()).2.toOption.any
      (fun env => !env.contains "a") = true := by decide +kernel
  cases he : (environmentFor .default "f" none).run sampleHost () with
  | mk state result =>
    cases result with
    | error failure =>
      rw [he] at hd
      cases hd
    | ok env =>
      have hc : takeSettings? ["expand", "f"] = some (none, ["expand", "f"]) := rfl
      have ha : env.contains "a" = false := by
        rw [he] at hd
        exact Bool.not_inj (hd : (!env.contains "a") = true)
      obtain ⟨outcome, _, hrun, hcode, -⟩ :=
        expansion_names_each_variable_once [] hc rfl rfl hr he
      have ho : outcome = ((run [] ["expand", "f"]).run sampleHost ()).2 := by rw [hrun]
      refine ⟨hr, env, outcome, rfl, ha, hrun, fun h => ?_, ?_, ?_⟩
      · have hm : ⟨.variableName, "a", .start⟩ ∈
            tokenize Settings.default.reserved "$a\n$b $a" := by decide +kernel
        rw [(hcode.mp h).2 _ hm rfl] at ha
        cases ha
      · rw [ho]
        decide +kernel
      · rw [ho]
        decide +kernel

end Command

end RequestScript
