import Mathlib
import RequestScript.Claims
import RequestScript.Proofs.Base64
import RequestScript.Proofs.Bindings
import RequestScript.Proofs.Json.Fields
import RequestScript.Proofs.Json.Reading

namespace RequestScript

/-- What a document holds for the value of a claim. -/
def ClaimValue.toRaw : ClaimValue → Json.Raw
  | single text => .string (some text)
  | list texts => .array (texts.map fun text => .string (some text))

theorem ClaimValue.toRaw_injective {a b : ClaimValue} (h : a.toRaw = b.toRaw) : a = b := by
  have hs : Function.Injective fun text : String => Json.Raw.string (some text) :=
    fun x y he => Option.some.inj (Json.Raw.string.inj he)
  cases a with
  | single x =>
    cases b with
    | single y => rw [hs h]
    | list ys => cases h
  | list xs =>
    cases b with
    | single y => cases h
    | list ys => rw [List.map_injective_iff.mpr hs (Json.Raw.array.inj h)]

theorem ClaimValue.toRaw_toJson (value : ClaimValue) : value.toJson.toRaw = value.toRaw := by
  cases value with
  | single text => rfl
  | list texts =>
    rw [toJson, Json.toRaw, Json.itemsToRaw_eq_map, List.map_map, toRaw]
    rfl

theorem ClaimValue.isNumberless_toJson (value : ClaimValue) :
    value.toJson.isNumberless = true := by
  cases value with
  | single text => rfl
  | list texts =>
    rw [toJson, Json.isNumberless]
    induction texts with
    | nil => rfl
    | cons text rest ih =>
      rw [List.map_cons, Json.areNumberless, ih]
      rfl

namespace Claims

theorem ext {a b : Claims} (h : a.entries = b.entries) : a = b := by
  cases a
  cases b
  cases h
  rfl

/-- The claims that pairs make when they are inserted one after the other. -/
def ofList (inserted : List (String × ClaimValue)) : Claims :=
  inserted.foldl (fun claims pair => claims.insert pair.1 pair.2) empty

theorem find?_insert (claims : Claims) (name other : String) (value : ClaimValue) :
    (claims.insert name value).find? other =
      if other = name then some value else claims.find? other := by
  unfold find? insert
  dsimp only
  induction claims.entries with
  | nil => exact Bindings.lookup_cons_eq name other value []
  | cons entry rest ih =>
    obtain ⟨first, old⟩ := entry
    rw [setByName]
    by_cases hf : first = name
    · subst hf
      rw [if_pos rfl, Bindings.lookup_cons_eq, Bindings.lookup_cons_eq]
      split
      · rfl
      · rfl
    · rw [if_neg hf, Bindings.lookup_cons_eq, Bindings.lookup_cons_eq, ih]
      by_cases ho : other = first
      · subst ho
        rw [if_pos rfl, if_pos rfl, if_neg hf]
      · rw [if_neg ho, if_neg ho]

/-- The value of a claim is the one that was inserted last. -/
theorem find?_ofList (inserted : List (String × ClaimValue)) (name : String) :
    (ofList inserted).find? name = inserted.reverse.lookup name := by
  induction inserted using List.reverseRecOn with
  | nil => rfl
  | append_singleton before pair ih =>
    have ho : ofList (before ++ [pair]) = (ofList before).insert pair.1 pair.2 :=
      List.foldl_append
    rw [ho, find?_insert, ih, List.reverse_append, List.reverse_singleton, List.singleton_append,
      Bindings.lookup_cons_eq]

/-- What a document holds for claims: their names and values in order. -/
def members (claims : Claims) : List (Option String × Json.Raw) :=
  claims.entries.map fun entry => (some entry.1, entry.2.toRaw)

theorem members_injective {a b : Claims} (h : a.members = b.members) : a = b := by
  have hm : Function.Injective fun entry : String × ClaimValue =>
      (some entry.1, entry.2.toRaw) := by
    rintro ⟨name, value⟩ ⟨other, later⟩ he
    obtain ⟨hn, hv⟩ := Prod.mk.inj he
    exact Prod.ext (Option.some.inj hn) (ClaimValue.toRaw_injective hv)
  exact ext (List.map_injective_iff.mpr hm h)

theorem toRaw_toJson (claims : Claims) : claims.toJson.toRaw = .object claims.members := by
  unfold toJson members
  rw [Json.toRaw, Json.membersToRaw_eq_map, List.map_map]
  simp only [Function.comp_def, ClaimValue.toRaw_toJson]

theorem isNumberless_toJson (claims : Claims) : claims.toJson.isNumberless = true := by
  unfold toJson
  rw [Json.isNumberless]
  induction claims.entries with
  | nil => rfl
  | cons entry rest ih =>
    rw [List.map_cons, Json.haveNumberless, ih, ClaimValue.isNumberless_toJson]
    rfl

theorem readRaw_toText (claims : Claims) :
    Json.readRaw (claims.toJson.toText.toList.map some) = some (.object claims.members) := by
  rw [Json.toText, String.toList_ofList, Json.readRaw_print claims.isNumberless_toJson,
    toRaw_toJson]

theorem decodeUnpadded?_segment (value : Json) :
    Base64.urlSafe.decodeUnpadded? (segment value) = some (utf8Bytes value.toText) := by
  rw [segment, Base64.decodeUnpadded?_encode, utf8Bytes, Json.toText, String.toList_ofList]

theorem dot_not_mem_segment (value : Json) : '.' ∉ segment value := by
  have hd : ∀ n < 64, Base64.urlSafe.digit n ≠ '.' := by decide
  intro hm
  exact Base64.forall_mem_encode (p := (· ≠ '.')) hd (fun hp => by cases hp) _ '.' hm rfl

theorem splitOn_unsecuredToken (claims : Claims) : claims.unsecuredToken.splitOn '.' =
    [segment unsecuredHeader, segment claims.toJson, []] := by
  have ht : claims.unsecuredToken =
      ['.'].intercalate [segment unsecuredHeader, segment claims.toJson, []] := by
    simp [unsecuredToken, List.intercalate]
  rw [ht]
  refine List.splitOn_intercalate '.' (fun part hp => ?_) (List.cons_ne_nil _ _)
  rcases List.mem_cons.mp hp with rfl | hp
  · exact dot_not_mem_segment _
  rcases List.mem_cons.mp hp with rfl | hp
  · exact dot_not_mem_segment _
  · rw [List.mem_singleton.mp hp]
    exact List.not_mem_nil

/-- No two sets of claims have the same token. -/
theorem unsecuredToken_injective {a b : Claims} (h : a.unsecuredToken = b.unsecuredToken) :
    a = b := by
  have hs := congrArg (List.splitOn '.') h
  rw [splitOn_unsecuredToken, splitOn_unsecuredToken] at hs
  have hp : segment a.toJson = segment b.toJson := (List.cons.inj (List.cons.inj hs).2).1
  have hb := congrArg Base64.urlSafe.decodeUnpadded? hp
  rw [decodeUnpadded?_segment, decodeUnpadded?_segment] at hb
  have ht := congrArg (fun bytes => Json.readRaw (decodeBytes bytes)) (Option.some.inj hb)
  dsimp only [utf8Bytes] at ht
  rw [decodeBytes_encodeText, decodeBytes_encodeText, readRaw_toText, readRaw_toText] at ht
  exact members_injective (Json.Raw.object.inj (Option.some.inj ht))

/-- A name of the algorithm that makes no signature, in whatever case its letters are. -/
def IsUnsigned (algorithm : String) : Prop :=
  List.Forall₂ (fun c letter => c = letter ∨ c = letter.toUpper) algorithm.toList
    ['n', 'o', 'n', 'e']

theorem toLower_eq_iff {c letter : Char} (h : letter.toLower = letter) :
    c.toLower = letter ↔ c = letter ∨ c = letter.toUpper := by
  constructor
  · rintro rfl
    by_cases hc : c.isLower = true
    · left
      rw [Char.toLower_eq_of_not_isUpper (Char.not_isUpper_of_isLower hc)]
    · right
      rw [Char.toUpper_toLower_eq_toUpper, Char.toUpper_eq_of_not_isLower hc]
  · rintro (rfl | rfl)
    · exact h
    · rw [Char.toLower_toUpper_eq_toLower, h]

theorem isUnsigned_iff (algorithm : String) :
    IsUnsigned algorithm ↔ algorithm.toList.map Char.toLower = ['n', 'o', 'n', 'e'] := by
  have hn : 'n'.toLower = 'n' := by decide
  have ho : 'o'.toLower = 'o' := by decide
  have he : 'e'.toLower = 'e' := by decide
  unfold IsUnsigned
  rw [← List.forall₂_eq_eq_eq, List.forall₂_map_left_iff]
  simp only [List.forall₂_cons_right_iff, List.forall₂_nil_right_iff, toLower_eq_iff hn,
    toLower_eq_iff ho, toLower_eq_iff he]

theorem unsecured_of_isUnsigned {algorithm : String} (h : IsUnsigned algorithm) (claims : Claims)
    (secret : String) :
    unsecured claims algorithm secret = .ok (String.ofList claims.unsecuredToken) :=
  if_pos ((isUnsigned_iff algorithm).mp h)

theorem unsecured_of_not_isUnsigned {algorithm : String} (h : ¬ IsUnsigned algorithm)
    (claims : Claims) (secret : String) :
    unsecured claims algorithm secret = .error (.unsupportedAlgorithm algorithm) :=
  if_neg fun hl => h ((isUnsigned_iff algorithm).mpr hl)

theorem unsecured_eq_error_iff {claims : Claims} {algorithm secret : String} {error : EncodeError} :
    unsecured claims algorithm secret = .error error ↔
      ¬ IsUnsigned algorithm ∧ error = .unsupportedAlgorithm algorithm := by
  by_cases h : IsUnsigned algorithm
  · rw [unsecured_of_isUnsigned h]
    exact ⟨fun he => (by cases he), fun ⟨hn, _⟩ => absurd h hn⟩
  · rw [unsecured_of_not_isUnsigned h]
    exact ⟨fun he => ⟨h, (Except.error.inj he).symm⟩, fun ⟨_, he⟩ => by rw [he]⟩

theorem eq_token_of_unsecured {claims : Claims} {algorithm secret token : String}
    (h : unsecured claims algorithm secret = .ok token) :
    token = String.ofList claims.unsecuredToken := by
  by_cases hu : IsUnsigned algorithm
  · rw [unsecured_of_isUnsigned hu] at h
    exact (Except.ok.inj h).symm
  · rw [unsecured_of_not_isUnsigned hu] at h
    cases h

/-- A token without a signature is made for the algorithm `none` alone, and it carries the claims
that have been inserted: a fixed header, their names and last values in order, and nothing else. -/
theorem unsecured_carries_claims (inserted : List (String × ClaimValue))
    (algorithm secret : String) :
    let claims := ofList inserted
    (∀ error, unsecured claims algorithm secret = .error error ↔
      ¬ IsUnsigned algorithm ∧ error = .unsupportedAlgorithm algorithm) ∧
    (IsUnsigned algorithm → ∃ token header payload, ∃ text : String,
      unsecured claims algorithm secret = .ok token ∧
      token.toList.splitOn '.' = [header, payload, []] ∧
      Base64.urlSafe.decodeUnpadded? header =
        some (utf8Bytes "\x7b\"alg\":\"none\",\"typ\":\"JWT\"\x7d") ∧
      Base64.urlSafe.decodeUnpadded? payload = some (utf8Bytes text) ∧
      Json.readRaw (text.toList.map some) = some (.object claims.members)) ∧
    (claims.members.map Prod.fst).Nodup ∧
    (∀ name, claims.find? name = inserted.reverse.lookup name) ∧
    (∀ others otherAlgorithm otherSecret token,
      unsecured claims algorithm secret = .ok token →
      unsecured others otherAlgorithm otherSecret = .ok token → others = claims) ∧
    ∀ otherSecret, unsecured claims algorithm otherSecret = unsecured claims algorithm secret := by
  intro claims
  refine ⟨fun error => unsecured_eq_error_iff, fun hu => ?_, ?_, find?_ofList inserted,
    fun others otherAlgorithm otherSecret token ht ho => ?_, fun _ => rfl⟩
  · have hheader : unsecuredHeader.toText = "\x7b\"alg\":\"none\",\"typ\":\"JWT\"\x7d" := by
      decide
    refine ⟨String.ofList claims.unsecuredToken, segment unsecuredHeader, segment claims.toJson,
      claims.toJson.toText, unsecured_of_isUnsigned hu claims secret, ?_, ?_,
      decodeUnpadded?_segment _, readRaw_toText claims⟩
    · rw [String.toList_ofList, splitOn_unsecuredToken]
    · rw [decodeUnpadded?_segment, hheader]
  · have hn := claims.distinct
    have hm : claims.members.map Prod.fst = (claims.entries.map Prod.fst).map some := by
      rw [members, List.map_map, List.map_map]
      rfl
    rw [hm]
    exact hn.map (Option.some_injective String)
  · have hl : String.ofList others.unsecuredToken = String.ofList claims.unsecuredToken := by
      rw [← eq_token_of_unsecured ho, ← eq_token_of_unsecured ht]
    have hlists := congrArg String.toList hl
    rw [String.toList_ofList, String.toList_ofList] at hlists
    exact unsecuredToken_injective hlists

end Claims

end RequestScript
