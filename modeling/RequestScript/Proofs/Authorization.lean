import RequestScript.Authorization
import RequestScript.Proofs.Base64
import RequestScript.Proofs.Text.Search

namespace RequestScript

/-- An ASCII letter or digit, a hyphen or an underscore. -/
def IsUrlSafeDigit (c : Char) : Prop :=
  ('A' ≤ c ∧ c ≤ 'Z') ∨ ('a' ≤ c ∧ c ≤ 'z') ∨ ('0' ≤ c ∧ c ≤ '9') ∨ c = '-' ∨ c = '_'

theorem isUrlSafeDigit_digit {n : Nat} (h : n < 64) : IsUrlSafeDigit (Base64.urlSafe.digit n) := by
  have all : ∀ m < 64, IsUrlSafeDigit (Base64.urlSafe.digit m) := by
    unfold IsUrlSafeDigit
    decide
  exact all n h

theorem toList_basicCredentials (user pass : String) :
    (basicCredentials user pass).toList =
      Base64.urlSafe.encode true (encodeText (user.toList ++ ':' :: pass.toList)) :=
  String.toList_ofList

theorem encodeText_joined (user pass : String) :
    encodeText (user.toList ++ ':' :: pass.toList) =
      (user ++ ":" ++ pass).toUTF8.data.toList := by
  have hl : (user ++ ":" ++ pass).toList = user.toList ++ ':' :: pass.toList := by
    rw [String.toList_append, String.toList_append, List.append_assoc]
    rfl
  rw [← utf8Bytes_eq_toUTF8, utf8Bytes, hl]

theorem decode_basicCredentials (user pass : String) :
    Base64.urlSafe.decode (basicCredentials user pass).toList =
      .ok (user ++ ":" ++ pass).toUTF8.data.toList := by
  rw [Base64.decode, toList_basicCredentials, Base64.decode?_encode, encodeText_joined]

/-- A user without a colon ends at the first one, so the password may have some. -/
theorem basicCredentials_injective {user other pass secret : String} (hu : ':' ∉ user.toList)
    (ho : ':' ∉ other.toList) (h : basicCredentials other secret = basicCredentials user pass) :
    other = user ∧ secret = pass := by
  have ht := congrArg String.toList h
  rw [toList_basicCredentials, toList_basicCredentials] at ht
  have hl := encodeText_injective (Base64.encode_injective ht)
  have hn : other.toList = user.toList := by
    have htake := congrArg (List.takeWhile (· != ':')) hl
    rwa [(search_append ho _).1, (search_append hu _).1] at htake
  rw [hn] at hl
  have hs : secret.toList = pass.toList := List.tail_eq_of_cons_eq (List.append_cancel_left hl)
  exact ⟨String.toList_injective hn, String.toList_injective hs⟩

/-- Credentials are digits of the URL-safe alphabet in groups of four, the last one filled up by at
most two signs of padding. They decode to the user, a colon and the password in UTF-8, and no two
pairs of which the users have no colon share them. -/
theorem basicCredentials_read_back (user pass : String) :
    (∃ digits count, (basicCredentials user pass).toList = digits ++ List.replicate count '=' ∧
      (∀ c ∈ digits, IsUrlSafeDigit c) ∧ count ≤ 2) ∧
    (basicCredentials user pass).length % 4 = 0 ∧
    Base64.urlSafe.decode (basicCredentials user pass).toList =
      .ok (user ++ ":" ++ pass).toUTF8.data.toList ∧
    ∀ other secret, ':' ∉ user.toList → ':' ∉ other.toList →
      basicCredentials other secret = basicCredentials user pass → other = user ∧ secret = pass := by
  refine ⟨?_, ?_, decode_basicCredentials user pass,
    fun other secret hu ho h => basicCredentials_injective hu ho h⟩
  · rw [toList_basicCredentials, Base64.encode_padded]
    refine ⟨_, _, rfl, ?_, by omega⟩
    exact Base64.forall_mem_encode (fun n hn => isUrlSafeDigit_digit hn) (fun hp => by cases hp) _
  · rw [← String.length_toList, toList_basicCredentials, Base64.length_encode_padded]
    exact Nat.mul_mod_left _ 4

end RequestScript
