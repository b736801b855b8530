import RequestScript.CacheEntry
import RequestScript.Proofs.Base64.Canonical
import RequestScript.Proofs.Instant.Reading
import RequestScript.Proofs.Json.Reading
import RequestScript.Proofs.Text.Utf8

namespace RequestScript.CacheEntry

theorem fields?_toJson (entry : CacheEntry) :
    entry.toJson.toRaw.fields? ["when", "data", "checksum"] =
      some [some (.string (some entry.storedAt.toText)),
        some (.string (some (String.ofList (Base64.standard.encode true entry.data)))),
        some (.string (some entry.checksum))] := by
  simp [toJson, Json.toRaw, Json.membersToRaw, Json.Raw.fields?, Json.Raw.soleMember?]

/-- Stored bytes are a document that has these texts in the fields of an entry. -/
def HasTexts (stored : Bytes) (storedAt data checksum : String) : Prop :=
  ∃ raw, Json.readRaw (decodeBytes stored) = some raw ∧
    raw.fields? ["when", "data", "checksum"] = some [some (.string (some storedAt)),
      some (.string (some data)), some (.string (some checksum))]

theorem decode?_of_hasTexts {stored : Bytes} {storedAt data checksum : String} {instant : Instant}
    (h : HasTexts stored storedAt data checksum)
    (hi : Instant.read? storedAt.toList = some instant) :
    decode? stored = (Base64.standard.decode? data.toList).map fun bytes =>
      ⟨instant, bytes, checksum⟩ := by
  obtain ⟨raw, hr, hf⟩ := h
  simp only [decode?, hr, Option.bind_eq_bind, Option.bind_some, ofRaw?, hf, Json.Raw.string?, hi]
  cases Base64.standard.decode? data.toList <;> rfl

theorem hasTexts_encode (entry : CacheEntry) : HasTexts entry.encode entry.storedAt.toText
    (String.ofList (Base64.standard.encode true entry.data)) entry.checksum := by
  refine ⟨entry.toJson.toRaw, ?_, fields?_toJson entry⟩
  rw [encode, decodeBytes_encodeText]
  exact Json.readRaw_print rfl

theorem read?_storedAt (entry : CacheEntry) :
    Instant.read? entry.storedAt.toText.toList = some entry.storedAt.canonical := by
  rw [Instant.toText, String.toList_ofList, Instant.read?_print]

/-- The entry that is decoded from what another one is encoded as. -/
def canonical (entry : CacheEntry) : CacheEntry :=
  { entry with storedAt := entry.storedAt.canonical }

theorem canonical_eq_self_iff {entry : CacheEntry} :
    entry.canonical = entry ↔ entry.storedAt.IsCanonical := by
  rw [← Instant.canonical_eq_self_iff]
  exact ⟨congrArg storedAt, fun h => by rw [canonical, h]⟩

theorem encode_canonical (entry : CacheEntry) : entry.canonical.encode = entry.encode := by
  simp only [encode, toJson, canonical, Instant.toText, Instant.print_canonical]

/-- What has been encoded is decoded to the same entry, with its time as it is read from its text. -/
theorem decode?_encode (entry : CacheEntry) : decode? entry.encode = some entry.canonical := by
  rw [decode?_of_hasTexts (hasTexts_encode entry) (read?_storedAt entry), String.toList_ofList,
    Base64.decode?_encode]
  rfl

theorem isIntact_ofData (data : Bytes) (now : Instant) : (ofData data now).isIntact = true :=
  beq_self_eq_true _

end RequestScript.CacheEntry
