import RequestScript.Proofs.Json.Fields
import RequestScript.Settings.Document

namespace RequestScript

theorem CodeRanges.exists_of_contains {ranges : CodeRanges} {n : Nat}
    (h : ranges.contains n = true) : ∃ range ∈ ranges, range.1 ≤ n ∧ n ≤ range.2 := by
  induction ranges with
  | nil => cases h
  | cons first rest ih =>
    rw [contains] at h
    split at h
    next => cases h
    next hl =>
      rcases Bool.or_eq_true_iff.mp h with hh | hr
      · exact ⟨first, List.mem_cons_self, Nat.le_of_not_lt hl, of_decide_eq_true hh⟩
      · obtain ⟨range, hm, hb⟩ := ih hr
        exact ⟨range, List.mem_cons_of_mem _ hm, hb⟩

theorem not_isAlphabetic_of_isWhiteSpace {c : Char} (h : isWhiteSpace c = true) :
    isAlphabetic c = false := by
  have hnone : ∀ range ∈ whiteSpaceRanges, ∀ n ∈ List.range' range.1 (range.2 - range.1 + 1),
      isAlphabetic (Char.ofNat n) = false := by decide +kernel
  obtain ⟨range, hm, hlow, hhigh⟩ := CodeRanges.exists_of_contains h
  have hn := hnone range hm c.toNat (List.mem_range'_1.mpr ⟨hlow, by omega⟩)
  rwa [Char.ofNat_toNat] at hn

/-- A word that begins with a letter and has no white space in it. -/
def IsWord (word : String) : Prop :=
  (∃ c ∈ word.toList.head?, isAlphabetic c = true) ∧ ∀ c ∈ word.toList, isWhiteSpace c = false

/-- What is wrong with settings when they are refused. -/
def SettingsError.FaultOf (settings : Settings) : SettingsError → Prop
  | zeroTtl => settings.cacheTtlSecs = 0
  | badKeyword word => word ∈ settings.keywords ∧ ¬ IsWord word
  | blankCacheFile => ∀ c ∈ settings.cacheFile.toList, isWhiteSpace c = true

namespace Settings

/-- Settings with which the cache and the scanner can work. -/
structure Valid (settings : Settings) : Prop where
  ttl : 0 < settings.cacheTtlSecs
  keywords : ∀ word ∈ settings.keywords, IsWord word
  cacheFile : ∃ c ∈ settings.cacheFile.toList, isWhiteSpace c = false

theorem isKeywordShaped_iff (word : String) : isKeywordShaped word = true ↔ IsWord word := by
  unfold isKeywordShaped IsWord
  cases word.toList with
  | nil => simp
  | cons c cs =>
    simp only [Bool.and_eq_true, List.all_eq_true, Bool.not_eq_true', List.head?_cons,
      Option.mem_some_iff, List.forall_mem_cons]
    constructor
    · rintro ⟨hc, hs⟩
      refine ⟨⟨c, rfl, hc⟩, Bool.eq_false_iff.mpr fun hw => ?_, hs⟩
      rw [not_isAlphabetic_of_isWhiteSpace hw] at hc
      cases hc
    · rintro ⟨⟨_, rfl, hc⟩, -, hs⟩
      exact ⟨hc, hs⟩

theorem faultOf_of_fault? {settings : Settings} {error : SettingsError}
    (h : settings.fault? = some error) : error.FaultOf settings := by
  unfold fault? at h
  split at h
  next ht =>
    cases h
    exact ht
  next =>
    split at h
    next word hw =>
      cases h
      have hs := List.find?_some hw
      have hm := List.mem_of_find?_eq_some hw
      exact ⟨hm, fun hword => by simp [(isKeywordShaped_iff word).mpr hword] at hs⟩
    next =>
      split at h
      next hb =>
        cases h
        exact List.all_eq_true.mp hb
      next => cases h

theorem not_valid_of_faultOf {settings : Settings} {error : SettingsError}
    (h : error.FaultOf settings) : ¬ settings.Valid := by
  intro hv
  cases error with
  | zeroTtl => exact absurd h (Nat.pos_iff_ne_zero.mp hv.ttl)
  | badKeyword word => exact h.2 (hv.keywords word h.1)
  | blankCacheFile =>
    obtain ⟨c, hc, hw⟩ := hv.cacheFile
    simp [h c hc] at hw

theorem valid_of_fault? {settings : Settings} (h : settings.fault? = none) : settings.Valid := by
  unfold fault? at h
  split at h
  next => cases h
  next ht =>
    split at h
    next => cases h
    next hk =>
      split at h
      next => cases h
      next hb =>
        refine ⟨Nat.pos_of_ne_zero ht, fun word hw => ?_, ?_⟩
        · have hs := List.find?_eq_none.mp hk word hw
          exact (isKeywordShaped_iff word).mp (by simpa using hs)
        · simpa [isBlank] using hb

theorem validate_eq_ok {settings : Settings} (h : settings.Valid) :
    settings.validate = .ok settings := by
  unfold validate
  cases hf : settings.fault? with
  | none => rfl
  | some error => exact absurd h (not_valid_of_faultOf (faultOf_of_fault? hf))

theorem validate_eq_error {settings : Settings} (h : ¬ settings.Valid) :
    ∃ error, settings.validate = .error error ∧ error.FaultOf settings := by
  unfold validate
  cases hf : settings.fault? with
  | none => exact absurd (valid_of_fault? hf) h
  | some error => exact ⟨error, rfl, faultOf_of_fault? hf⟩

theorem valid_default : default.Valid :=
  valid_of_fault? (by decide +kernel)

def fieldNames : List String :=
  ["keywords", "environmentFile", "cacheFile", "cacheTtlSecs"]

/-- The settings that a section gives, which may name them or have them in order; those that it
leaves out are the default ones. -/
structure GivenBy (given : Json) (settings : Settings) : Prop where
  fields : given.HasFields fieldNames
  keywords : Json.Takes (fun words => .array (words.map .string)) default.keywords
    (given.field? 0 "keywords") settings.keywords
  environmentFile : Json.Takes .string default.environmentFile
    (given.field? 1 "environmentFile") settings.environmentFile
  cacheFile : Json.Takes .string default.cacheFile (given.field? 2 "cacheFile") settings.cacheFile
  cacheTtlSecs : Json.Takes (fun seconds : Nat => .number (.integer seconds)) default.cacheTtlSecs
    (given.field? 3 "cacheTtlSecs") settings.cacheTtlSecs

theorem ofRaw?_eq_some_iff {given : Json} {settings : Settings} :
    ofRaw? given.toRaw = some settings ↔ GivenBy given settings := by
  unfold ofRaw?
  rw [← fieldNames]
  cases hf : Json.Raw.fields? fieldNames given.toRaw with
  | none =>
    have hn : ¬ given.HasFields fieldNames := fun hg => by
      rw [Json.fields?_eq_some_iff.mpr ⟨hg, rfl⟩] at hf
      cases hf
    exact ⟨fun h => (by cases h), fun h => absurd h.fields hn⟩
  | some values =>
    obtain ⟨hg, rfl⟩ := Json.fields?_eq_some_iff.mp hf
    simp only [fieldNames, List.mapIdx_cons, List.mapIdx_nil, Option.bind_eq_bind,
      Option.bind_eq_some_iff, Json.fieldOr_eq_some_iff fun _ _ => Json.strings?_eq_some_iff,
      Json.fieldOr_eq_some_iff fun _ _ => Json.string?_eq_some_iff,
      Json.fieldOr_eq_some_iff fun _ _ => Json.natural?_eq_some_iff]
    constructor
    · rintro ⟨keywords, hk, environmentFile, he, cacheFile, hc, cacheTtlSecs, ht, hs⟩
      rw [← Option.some.inj hs]
      exact ⟨hg, hk, he, hc, ht⟩
    · rintro ⟨-, hk, he, hc, ht⟩
      exact ⟨_, hk, _, he, _, hc, _, ht, rfl⟩

/-- The settings that are chosen by a document, if there is one: those of its section if it has one
that gives some, else the default ones. -/
inductive Chosen : Option Json → Settings → Prop
  | given {document sect : Json} {settings : Settings} (hs : section? document = some sect)
      (hg : GivenBy sect settings) : Chosen (some document) settings
  | unusable {document sect : Json} (hs : section? document = some sect)
      (hn : ∀ settings, ¬ GivenBy sect settings) : Chosen (some document) default
  | noSection {document : Json} (hs : section? document = none) : Chosen (some document) default
  | noDocument : Chosen none default

theorem chosen_iff {document : Option Json} {settings : Settings} :
    Chosen document settings ↔ settings = (document.map ofDocument).getD default := by
  constructor
  · intro h
    cases h with
    | given hs hg =>
      simp only [Option.map_some, Option.getD_some, ofDocument, hs, ofRaw?_eq_some_iff.mpr hg]
      rfl
    | @unusable document sect hs hn =>
      have hr : ofRaw? sect.toRaw = none := by
        cases hr : ofRaw? sect.toRaw with
        | none => rfl
        | some settings => exact absurd (ofRaw?_eq_some_iff.mp hr) (hn settings)
      simp only [Option.map_some, Option.getD_some, ofDocument, hs, hr]
    | noSection hs => simp only [Option.map_some, Option.getD_some, ofDocument, hs]
    | noDocument => rfl
  · rintro rfl
    cases document with
    | none => exact .noDocument
    | some document =>
      simp only [Option.map_some, Option.getD_some, ofDocument]
      cases hs : section? document with
      | none => exact .noSection hs
      | some sect =>
        cases hr : ofRaw? sect.toRaw with
        | none =>
          simp only [hr]
          refine .unusable hs fun settings hg => ?_
          rw [ofRaw?_eq_some_iff.mpr hg] at hr
          cases hr
        | some settings =>
          simp only [hr]
          exact .given hs (ofRaw?_eq_some_iff.mp hr)

/-- A document, or none, is offered, or the default settings are restored. -/
inductive Call where
  | load (document : Option Json)
  | reset

/-- The settings that are installed after a call. -/
def afterCall (installed : Settings) : Call → Settings
  | .load document => (installed.load document).1
  | .reset => default

/-- The settings that are installed after some calls. -/
def afterCalls (calls : List Call) : Settings :=
  calls.foldl afterCall default

/-- What comes of an offer: the settings that it chooses are installed and returned if they are
valid, else nothing changes and one of their faults is named. -/
def Installs (installed : Settings) (document : Option Json) (chosen : Settings) : Prop :=
  (chosen.Valid ∧ installed.load document = (chosen, .ok chosen)) ∨
    ∃ error, error.FaultOf chosen ∧ ¬ chosen.Valid ∧
      installed.load document = (installed, .error error)

theorem installs {installed chosen : Settings} {document : Option Json}
    (h : Chosen document chosen) : Installs installed document chosen := by
  have hc := chosen_iff.mp h
  by_cases hv : chosen.Valid
  · refine Or.inl ⟨hv, ?_⟩
    rw [load, ← hc, validate_eq_ok hv]
  · obtain ⟨error, he, hf⟩ := validate_eq_error hv
    refine Or.inr ⟨error, hf, hv, ?_⟩
    rw [load, ← hc, he]

theorem valid_afterCall {installed : Settings} (h : installed.Valid) (made : Call) :
    (installed.afterCall made).Valid := by
  cases made with
  | reset => exact valid_default
  | load document =>
    have hi : Installs installed document ((document.map ofDocument).getD default) :=
      installs (chosen_iff.mpr rfl)
    rcases hi with ⟨hv, hl⟩ | ⟨_, -, -, hl⟩
    · rw [afterCall, hl]
      exact hv
    · rw [afterCall, hl]
      exact h

theorem valid_foldl {installed : Settings} (h : installed.Valid) (calls : List Call) :
    (calls.foldl afterCall installed).Valid := by
  induction calls generalizing installed with
  | nil => exact h
  | cons made rest ih => exact ih (valid_afterCall h made)

theorem afterCalls_snoc (calls : List Call) (made : Call) :
    afterCalls (calls ++ [made]) = (afterCalls calls).afterCall made :=
  List.foldl_append

/-- Whatever has been loaded and reset, the installed settings are valid. A document chooses some
settings, and only these; they are installed as a whole if they are valid, else all stays as it
is. A reset brings back the default settings. -/
theorem installed_valid (calls : List Call) :
    (afterCalls calls).Valid ∧ afterCalls (calls ++ [.reset]) = default ∧
      ∀ document, ∃ chosen, (∀ other, Chosen document other ↔ other = chosen) ∧
        Installs (afterCalls calls) document chosen ∧
        afterCalls (calls ++ [.load document]) = ((afterCalls calls).load document).1 := by
  refine ⟨valid_foldl valid_default calls, afterCalls_snoc calls .reset, fun document => ?_⟩
  have hc : Chosen document ((document.map ofDocument).getD default) := chosen_iff.mpr rfl
  exact ⟨_, fun other => chosen_iff, installs hc, afterCalls_snoc calls (.load document)⟩

end Settings

end RequestScript
