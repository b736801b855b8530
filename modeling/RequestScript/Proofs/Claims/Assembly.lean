import RequestScript.Authorization
import RequestScript.Keywords
import RequestScript.Proofs.Claims

namespace RequestScript

section FirstFailure

variable {α β ε : Type} {f : α → Except ε β} {error : ε}

/-- The first of some items on which a function fails does so with this error. -/
def FailsFirst (f : α → Except ε β) (items : List α) (error : ε) : Prop :=
  ∃ before item after, items = before ++ item :: after ∧
    (∀ earlier ∈ before, ∃ value, f earlier = .ok value) ∧ f item = .error error

theorem not_failsFirst_nil : ¬ FailsFirst f [] error := by
  rintro ⟨before, item, after, hs, -⟩
  simp at hs

theorem failsFirst_cons {item : α} {rest : List α} : FailsFirst f (item :: rest) error ↔
    f item = .error error ∨ (∃ value, f item = .ok value) ∧ FailsFirst f rest error := by
  constructor
  · rintro ⟨before, other, after, hs, hb, ho⟩
    cases before with
    | nil =>
      obtain ⟨rfl, rfl⟩ := List.cons.inj hs
      exact Or.inl ho
    | cons first before =>
      obtain ⟨rfl, rfl⟩ := List.cons.inj hs
      have hrest : ∀ earlier ∈ before, ∃ value, f earlier = .ok value :=
        fun earlier he => hb earlier (List.mem_cons_of_mem _ he)
      exact Or.inr ⟨hb item List.mem_cons_self, before, other, after, rfl, hrest, ho⟩
  · rintro (hi | ⟨hi, before, other, after, rfl, hb, ho⟩)
    · exact ⟨[], item, rest, rfl, fun earlier he => absurd he List.not_mem_nil, hi⟩
    · exact ⟨item :: before, other, after, rfl, List.forall_mem_cons.mpr ⟨hi, hb⟩, ho⟩

theorem failsFirst_append {items rest : List α} : FailsFirst f (items ++ rest) error ↔
    FailsFirst f items error ∨
      (∀ item ∈ items, ∃ value, f item = .ok value) ∧ FailsFirst f rest error := by
  induction items with
  | nil => simp [not_failsFirst_nil]
  | cons item items ih =>
    rw [List.cons_append, failsFirst_cons, ih, failsFirst_cons, List.forall_mem_cons]
    tauto

theorem not_failsFirst_of_ok {items : List α} (h : ∀ item ∈ items, ∃ value, f item = .ok value) :
    ¬ FailsFirst f items error := by
  rintro ⟨before, item, after, rfl, -, he⟩
  obtain ⟨value, hv⟩ := h item (by simp)
  rw [hv] at he
  cases he

theorem ok_or_failsFirst (f : α → Except ε β) (items : List α) :
    (∀ item ∈ items, ∃ value, f item = .ok value) ∨ ∃ error, FailsFirst f items error := by
  induction items with
  | nil => exact Or.inl fun item hi => absurd hi List.not_mem_nil
  | cons item rest ih =>
    cases hi : f item with
    | error error => exact Or.inr ⟨error, failsFirst_cons.mpr (Or.inl hi)⟩
    | ok value =>
      rcases ih with hr | ⟨error, hr⟩
      · exact Or.inl (List.forall_mem_cons.mpr ⟨⟨value, hi⟩, hr⟩)
      · exact Or.inr ⟨error, failsFirst_cons.mpr (Or.inr ⟨⟨value, hi⟩, hr⟩)⟩

theorem mapM_eq_error_iff {items : List α} :
    items.mapM f = .error error ↔ FailsFirst f items error := by
  induction items with
  | nil => exact ⟨fun h => (by cases h), fun h => absurd h not_failsFirst_nil⟩
  | cons item rest ih =>
    rw [List.mapM_cons, failsFirst_cons, ← ih]
    cases f item with
    | error first => simp [bind, Except.bind]
    | ok value =>
      cases rest.mapM f with
      | error later => simp [bind, Except.bind]
      | ok values => simp [bind, Except.bind, pure, Except.pure]

theorem mapM_eq_ok_iff {items : List α} {values : List β} :
    items.mapM f = .ok values ↔ items.map f = values.map .ok := by
  induction items generalizing values with
  | nil => simp [pure, Except.pure, eq_comm]
  | cons item rest ih =>
    rw [List.mapM_cons]
    cases hi : f item with
    | error first => cases values <;> simp [hi, bind, Except.bind]
    | ok value =>
      cases hr : rest.mapM f with
      | error later => cases values <;> simp [hi, hr, ← ih, bind, Except.bind]
      | ok others =>
        cases values <;> simp [hi, hr, ← ih, bind, Except.bind, pure, Except.pure]

end FirstFailure

/-- What is found behind all else under a name has been put there last. -/
theorem lookup_reverse_eq_some_iff {α : Type} {pairs : List (String × α)} {name : String}
    {value : α} : pairs.reverse.lookup name = some value ↔
      ∃ before after, pairs = before ++ (name, value) :: after ∧ name ∉ after.map Prod.fst := by
  rw [List.lookup_eq_some_iff]
  constructor
  · rintro ⟨later, earlier, hs, hl⟩
    refine ⟨earlier.reverse, later.reverse, ?_, fun hm => ?_⟩
    · rw [← List.reverse_reverse pairs, hs]
      simp
    · obtain ⟨pair, hp, rfl⟩ := List.mem_map.mp hm
      simpa using hl pair (List.mem_reverse.mp hp)
  · rintro ⟨before, after, rfl, ha⟩
    refine ⟨after.reverse, before.reverse, by simp, fun pair hp => ?_⟩
    have hm : pair.1 ∈ after.map Prod.fst := List.mem_map_of_mem (List.mem_reverse.mp hp)
    exact bne_iff_ne.mpr fun he => ha (he ▸ hm)

theorem firstOccurrences_append_singleton (words : List String) (word : String) :
    firstOccurrences (words ++ [word]) =
      if word ∈ words then firstOccurrences words else firstOccurrences words ++ [word] := by
  induction words with
  | nil => simp [firstOccurrences]
  | cons first rest ih =>
    rw [List.cons_append, firstOccurrences, ih]
    by_cases hr : word ∈ rest
    · rw [if_pos hr, if_pos (List.mem_cons_of_mem first hr), firstOccurrences]
    · rw [if_neg hr, List.filter_append]
      by_cases hf : word = first
      · simp [hf, firstOccurrences]
      · simp [hf, hr, firstOccurrences]

namespace ClaimValue

/-- What the words of a claim make of it: one word a single text, any other number a list of
texts. -/
inductive GivenBy (env : Environment String) : List Word → ClaimValue → Prop
  | single {word : Word} {text : String} (h : word.expand env = .ok text) :
      GivenBy env [word] (.single text)
  | list {words : List Word} {texts : List String} (hn : words.length ≠ 1)
      (h : words.map (Word.expand env) = texts.map .ok) : GivenBy env words (.list texts)

variable {env : Environment String} {words : List Word}

theorem ofWords_list (hn : words.length ≠ 1) :
    ofWords env words = (return list (← words.mapM (Word.expand env))) := by
  match words with
  | [] => rfl
  | [word] => exact absurd rfl hn
  | first :: second :: rest => rfl

theorem ofWords_eq_ok_iff {value : ClaimValue} :
    ofWords env words = .ok value ↔ GivenBy env words value := by
  by_cases hn : words.length = 1
  · obtain ⟨word, rfl⟩ := List.length_eq_one_iff.mp hn
    constructor
    · intro h
      cases he : word.expand env with
      | error error => simp [ofWords, he, bind, Except.bind] at h
      | ok text =>
        simp only [ofWords, he, bind, Except.bind, pure, Except.pure, Except.ok.injEq] at h
        subst h
        exact .single he
    · intro h
      cases h with
      | single h => simp [ofWords, h, bind, Except.bind, pure, Except.pure]
      | list hl => exact absurd hn hl
  · rw [ofWords_list hn]
    constructor
    · intro h
      cases hm : words.mapM (Word.expand env) with
      | error error => simp [hm, bind, Except.bind] at h
      | ok texts =>
        simp only [hm, bind, Except.bind, pure, Except.pure, Except.ok.injEq] at h
        subst h
        exact .list hn (mapM_eq_ok_iff.mp hm)
    · intro h
      cases h with
      | single => exact absurd rfl hn
      | list _ h => simp [mapM_eq_ok_iff.mpr h, bind, Except.bind, pure, Except.pure]

theorem ofWords_eq_error_iff {error : ExpandError} :
    ofWords env words = .error error ↔ FailsFirst (Word.expand env) words error := by
  by_cases hn : words.length = 1
  · obtain ⟨word, rfl⟩ := List.length_eq_one_iff.mp hn
    rw [failsFirst_cons, ofWords]
    cases word.expand env with
    | error first => simp [bind, Except.bind]
    | ok text => simp [bind, Except.bind, pure, Except.pure, not_failsFirst_nil]
  · rw [ofWords_list hn, ← mapM_eq_error_iff]
    cases words.mapM (Word.expand env) with
    | error first => simp [bind, Except.bind]
    | ok texts => simp [bind, Except.bind, pure, Except.pure]

theorem expands_of_givenBy {value : ClaimValue} (h : GivenBy env words value) :
    ∀ word ∈ words, ∃ text, word.expand env = .ok text := by
  intro word hw
  cases h with
  | single h =>
    obtain rfl := List.mem_singleton.mp hw
    exact ⟨_, h⟩
  | @list _ texts hn h =>
    have hm : word.expand env ∈ texts.map Except.ok := h ▸ List.mem_map_of_mem hw
    obtain ⟨text, -, ht⟩ := List.mem_map.mp hm
    exact ⟨text, ht.symm⟩

/-- The value that words give, as far as they give one. -/
def filled (env : Environment String) (words : List Word) : ClaimValue :=
  (ofWords env words).toOption.getD (.list [])

theorem ofWords_of_expands (h : ∀ word ∈ words, ∃ text, word.expand env = .ok text) :
    ofWords env words = .ok (filled env words) := by
  unfold filled
  cases hv : ofWords env words with
  | ok value => rfl
  | error error => exact absurd (ofWords_eq_error_iff.mp hv) (not_failsFirst_of_ok h)

theorem givenBy_iff (h : ∀ word ∈ words, ∃ text, word.expand env = .ok text)
    {value : ClaimValue} : GivenBy env words value ↔ filled env words = value := by
  rw [← ofWords_eq_ok_iff, ofWords_of_expands h, Except.ok.injEq]

end ClaimValue

namespace Claims

variable {env : Environment String}

theorem find?_eq_some_iff {claims : Claims} {name : String} {value : ClaimValue} :
    claims.find? name = some value ↔ (name, value) ∈ claims.entries :=
  lookup_eq_some_iff_mem claims.distinct

theorem names_setByName (name : String) (value : ClaimValue)
    (entries : List (String × ClaimValue)) :
    (setByName name value entries).map Prod.fst =
      if name ∈ entries.map Prod.fst then entries.map Prod.fst
      else entries.map Prod.fst ++ [name] := by
  induction entries with
  | nil => rfl
  | cons entry rest ih =>
    obtain ⟨first, old⟩ := entry
    by_cases hf : first = name
    · simp [setByName, hf]
    · have hn : name ≠ first := Ne.symm hf
      simp only [setByName, hf, if_false, List.map_cons, ih, List.mem_cons, hn, false_or]
      split
      · rfl
      · rfl

/-- Names stay in the order in which they have first been inserted. -/
theorem names_ofList (inserted : List (String × ClaimValue)) :
    (ofList inserted).entries.map Prod.fst = firstOccurrences (inserted.map Prod.fst) := by
  induction inserted using List.reverseRecOn with
  | nil => rfl
  | append_singleton before pair ih =>
    have ho : ofList (before ++ [pair]) = (ofList before).insert pair.1 pair.2 :=
      List.foldl_append
    have hn : ((ofList before).insert pair.1 pair.2).entries.map Prod.fst = _ :=
      names_setByName pair.1 pair.2 (ofList before).entries
    rw [ho, hn, ih, List.map_append, List.map_singleton, firstOccurrences_append_singleton]
    simp only [mem_firstOccurrences]

theorem addAll_eq_error_iff {start : Claims} {claims : List (String × List Word)}
    {error : ExpandError} : addAll env start claims = .error error ↔
      FailsFirst (Word.expand env) (claims.flatMap Prod.snd) error := by
  induction claims generalizing start with
  | nil => exact ⟨fun h => (by cases h), fun h => absurd h not_failsFirst_nil⟩
  | cons claim rest ih =>
    obtain ⟨name, words⟩ := claim
    rw [addAll, List.flatMap_cons, failsFirst_append]
    cases hv : ClaimValue.ofWords env words with
    | error first =>
      have hf : FailsFirst (Word.expand env) words first := ClaimValue.ofWords_eq_error_iff.mp hv
      rw [← ClaimValue.ofWords_eq_error_iff, hv]
      have hn : ¬ ∀ word ∈ words, ∃ text, word.expand env = .ok text :=
        fun h => not_failsFirst_of_ok h hf
      simp [bind, Except.bind, hn]
    | ok value =>
      have hw := ClaimValue.expands_of_givenBy (ClaimValue.ofWords_eq_ok_iff.mp hv)
      have hn : ¬ FailsFirst (Word.expand env) words error := not_failsFirst_of_ok hw
      rw [← @ih (start.insert name value)]
      exact ⟨fun h => Or.inr ⟨hw, h⟩, fun h => (h.resolve_left hn).2⟩

/-- Claims whose words all expand are inserted one after the other. -/
theorem addAll_of_expands {start : Claims} {claims : List (String × List Word)}
    (h : ∀ claim ∈ claims, ∀ word ∈ claim.2, ∃ text, word.expand env = .ok text) :
    addAll env start claims =
      .ok ((claims.map fun claim => (claim.1, ClaimValue.filled env claim.2)).foldl
        (fun claims pair => claims.insert pair.1 pair.2) start) := by
  induction claims generalizing start with
  | nil => rfl
  | cons claim rest ih =>
    obtain ⟨name, words⟩ := claim
    obtain ⟨hw, hr⟩ := List.forall_mem_cons.mp h
    rw [addAll, ClaimValue.ofWords_of_expands hw]
    exact ih hr

/-- The claims that are assembled from words that all expand. -/
def filled (env : Environment String) (claims : List (String × List Word)) : Claims :=
  ofList (claims.map fun claim => (claim.1, ClaimValue.filled env claim.2))

theorem names_filled (claims : List (String × List Word)) :
    (filled env claims).entries.map Prod.fst = firstOccurrences (claims.map Prod.fst) := by
  rw [filled, names_ofList, List.map_map]
  rfl

theorem mem_entries_filled {claims : List (String × List Word)}
    (h : ∀ claim ∈ claims, ∀ word ∈ claim.2, ∃ text, word.expand env = .ok text)
    (name : String) (value : ClaimValue) : (name, value) ∈ (filled env claims).entries ↔
      ∃ before words after, claims = before ++ (name, words) :: after ∧
        name ∉ after.map Prod.fst ∧ ClaimValue.GivenBy env words value := by
  rw [← find?_eq_some_iff, filled, find?_ofList, ← List.map_reverse, lookup_map_values,
    Option.map_eq_some_iff]
  constructor
  · rintro ⟨words, hl, hv⟩
    obtain ⟨before, after, rfl, ha⟩ := lookup_reverse_eq_some_iff.mp hl
    have hw := h (name, words) (by simp)
    exact ⟨before, words, after, rfl, ha, (ClaimValue.givenBy_iff hw).mpr hv⟩
  · rintro ⟨before, words, after, rfl, ha, hg⟩
    have hw := h (name, words) (by simp)
    exact ⟨words, lookup_reverse_eq_some_iff.mpr ⟨before, after, rfl, ha⟩,
      (ClaimValue.givenBy_iff hw).mp hg⟩

theorem assemble_of_expands {claims : List (String × List Word)}
    (h : ∀ claim ∈ claims, ∀ word ∈ claim.2, ∃ text, word.expand env = .ok text) :
    assemble env claims = .ok (filled env claims) :=
  addAll_of_expands h

theorem expands_of_assemble {claims : List (String × List Word)} {assembled : Claims}
    (h : assemble env claims = .ok assembled) :
    ∀ claim ∈ claims, ∀ word ∈ claim.2, ∃ text, word.expand env = .ok text := by
  rcases ok_or_failsFirst (Word.expand env) (claims.flatMap Prod.snd) with hok | ⟨error, hf⟩
  · exact fun claim hc word hw => hok word (List.mem_flatMap_of_mem hc hw)
  · have he : assemble env claims = .error error := addAll_eq_error_iff.mpr hf
    rw [he] at h
    cases h

/-- Claims are assembled exactly if all their words expand, and else fail as the first word that
does not, whether or not its claim would be replaced. They stand under their names in the order in
which these first occur, each with the value that its words gave where the name last occurs. An
authorization by claims fails in the same way, whatever encodes them, and otherwise is what the
encoder makes of them. -/
theorem assembled_by_last_occurrence (env : Environment String)
    (claims : List (String × List Word)) :
    ((∃ assembled, assemble env claims = .ok assembled) ↔
      ∀ claim ∈ claims, ∀ word ∈ claim.2, ∃ text, word.expand env = .ok text) ∧
    (∀ error, assemble env claims = .error error ↔
      FailsFirst (Word.expand env) (claims.flatMap Prod.snd) error) ∧
    (∀ assembled, assemble env claims = .ok assembled →
      assembled.entries.map Prod.fst = firstOccurrences (claims.map Prod.fst) ∧
      (∀ name value, (name, value) ∈ assembled.entries ↔ ∃ before words after,
        claims = before ++ (name, words) :: after ∧ name ∉ after.map Prod.fst ∧
        ClaimValue.GivenBy env words value) ∧
      ∀ name value, assembled.find? name = some value ↔ (name, value) ∈ assembled.entries) ∧
    ∀ (encoder : ClaimsEncoder) (algorithm secret : String),
      (∀ error, assemble env claims = .error error →
        (Authorization.claims claims algorithm secret).expand env encoder =
          .error (.expand error)) ∧
      ∀ assembled, assemble env claims = .ok assembled →
        (Authorization.claims claims algorithm secret).expand env encoder =
          (encoder assembled algorithm secret).mapError .encode := by
  refine ⟨⟨fun ⟨assembled, ha⟩ => expands_of_assemble ha, fun h => ⟨_, assemble_of_expands h⟩⟩,
    fun error => addAll_eq_error_iff, fun assembled ha => ?_, fun encoder algorithm secret =>
    ⟨fun error he => ?_, fun assembled ha => ?_⟩⟩
  · have hw := expands_of_assemble ha
    obtain rfl : filled env claims = assembled := by
      rw [assemble_of_expands hw] at ha
      exact Except.ok.inj ha
    exact ⟨names_filled claims, mem_entries_filled hw, fun name value => find?_eq_some_iff⟩
  · simp only [Authorization.expand, he]
    rfl
  · simp only [Authorization.expand, ha]
    rfl

example : (assemble .root [("sub", [.literal "a"]), ("aud", []),
    ("sub", [.literal "b", .literal "c"])]).map Claims.entries =
      .ok [("sub", .list ["b", "c"]), ("aud", .list [])] := by
  rfl

end Claims

end RequestScript
