import RequestScript.Proofs.FileStore.Frame

namespace RequestScript.FileStore

theorem valueOf_eq_ok_iff {key text : String} {bytes : Bytes} :
    valueOf key text = .ok bytes ↔ text.toList = Base64.standard.encode true bytes := by
  rw [← Base64.decode?_eq_some_iff]
  unfold valueOf Base64.decode
  cases Base64.standard.decode? text.toList with
  | none => simp [Except.mapError]
  | some value => simp [Except.mapError]

theorem valueOf_eq_badValue_iff {key text : String} :
    (∃ error, valueOf key text = .error (.badValue key error)) ↔
      ¬ ∃ bytes, text.toList = Base64.standard.encode true bytes := by
  simp only [← Base64.decode?_eq_some_iff]
  unfold valueOf Base64.decode
  cases Base64.standard.decode? text.toList with
  | none => simp [Except.mapError]
  | some value => simp [Except.mapError]

variable {workspace : Workspace} {store : FileStore} {tag : List Char} {held : Bindings String}

/-- Values have one representation. A store gives bytes for a text exactly if the text is their padded
form, and says that the value is bad for every text that is no such form; the data of a cache entry
are read by the same rule. -/
theorem values_have_one_form (ho : store.isOpen = true)
    (hr : textsIn workspace.tree store.path = .ok held) :
    (∀ key text, held.find? key = some text →
      (∀ bytes, workspace.run (store.call tag (.get key)) = (workspace, store, .ok (some bytes)) ↔
        text.toList = Base64.standard.encode true bytes) ∧
      ((∃ error, workspace.run (store.call tag (.get key)) =
          (workspace, store, .error (.badValue key error))) ↔
        ¬ ∃ digits count, text.toList = digits ++ List.replicate count '=' ∧
          Base64.standard.Fills digits count)) ∧
    (∀ key text other text' bytes, held.find? key = some text → held.find? other = some text' →
      workspace.run (store.call tag (.get key)) = (workspace, store, .ok (some bytes)) →
      workspace.run (store.call tag (.get other)) = (workspace, store, .ok (some bytes)) →
      text = text') ∧
    ∀ stored storedAt text checksum instant, CacheEntry.HasTexts stored storedAt text checksum →
      Instant.read? storedAt.toList = some instant →
      (∀ bytes, CacheEntry.decode? stored = some ⟨instant, bytes, checksum⟩ ↔
        text.toList = Base64.standard.encode true bytes) ∧
      (CacheEntry.decode? stored = none ↔
        ¬ ∃ digits count, text.toList = digits ++ List.replicate count '=' ∧
          Base64.standard.Fills digits count) := by
  obtain ⟨path, _⟩ := store
  cases ho
  dsimp only at hr
  have hget (key text : String) (hk : held.find? key = some text)
      (answer : Except StoreError (Option Bytes)) :
      workspace.run (call ⟨path, true⟩ tag (.get key)) = (workspace, ⟨path, true⟩, answer) ↔
        (valueOf key text).map some = answer := by
    rw [run_call_get hr, valueIn, hk]
    exact ⟨fun h => (Prod.mk.inj (Prod.mk.inj h).2).2, fun h => h ▸ rfl⟩
  have hok (key text : String) (hk : held.find? key = some text) (bytes : Bytes) :
      workspace.run (call ⟨path, true⟩ tag (.get key)) =
          (workspace, ⟨path, true⟩, .ok (some bytes)) ↔
        text.toList = Base64.standard.encode true bytes := by
    refine (hget key text hk (.ok (some bytes))).trans ?_
    rw [← valueOf_eq_ok_iff]
    cases valueOf key text <;> simp [Except.map]
  refine ⟨fun key text hk => ⟨hok key text hk, ?_⟩,
    fun key text other text' bytes hk hk' hb hb' => ?_,
    fun stored storedAt text checksum instant ht hi => ?_⟩
  · refine (exists_congr fun error => hget key text hk (.error (.badValue key error))).trans ?_
    rw [← Base64.exists_eq_encode_iff, ← valueOf_eq_badValue_iff]
    cases valueOf key text <;> simp [Except.map]
  · have hs := ((hok key text hk bytes).mp hb).trans ((hok other text' hk' bytes).mp hb').symm
    exact String.toList_inj.mp hs
  · rw [← Base64.exists_eq_encode_iff, CacheEntry.decode?_of_hasTexts ht hi]
    simp only [← Base64.decode?_eq_some_iff]
    cases Base64.standard.decode? text.toList <;> simp

/-- Of two texts that differ in bits which no byte takes, one is the value `A` and one is bad; the
data of an entry are read from the one that they are written as. -/
theorem values_have_one_form_unused_bits :
    ∃ (workspace : Workspace) (entry : CacheEntry), entry.data = [0x41] ∧
      textsIn workspace.tree ⟨['c']⟩ =
        .ok (Bindings.insert (Bindings.insert ∅ "good" "QQ==") "bad" "QR==") ∧
      workspace.run (call ⟨⟨['c']⟩, true⟩ [] (.get "good")) =
        (workspace, ⟨⟨['c']⟩, true⟩, .ok (some [0x41])) ∧
      (∃ error, workspace.run (call ⟨⟨['c']⟩, true⟩ [] (.get "bad")) =
        (workspace, ⟨⟨['c']⟩, true⟩, .error (.badValue "bad" error))) ∧
      CacheEntry.decode? entry.encode = some entry := by
  let held : Bindings String := Bindings.insert (Bindings.insert ∅ "good" "QQ==") "bad" "QR=="
  let tree := (FileTree.ofDirectory "w").put ["w", "c"] (.file (encodeText (StoreFile.print held)))
  have hl : tree.Leads ⟨['c']⟩ ["w"] "c" :=
    FileTree.leads_name (by decide) (by decide) ⟨by decide, by decide, by decide⟩ rfl
  have hr : textsIn tree ⟨['c']⟩ = .ok held :=
    textsIn_of_content? (FileTree.content?_eq_some_iff.mpr ⟨_, hl.points, rfl⟩)
  have h := @values_have_one_form ⟨tree, ⟨0, 0, by decide, by decide, by decide⟩⟩ ⟨⟨['c']⟩, true⟩
    [] _ rfl hr
  have hgood : held.find? "good" = some "QQ==" := by decide
  have hbad : held.find? "bad" = some "QR==" := by decide
  let entry : CacheEntry := .ofData [0x41] ⟨0, 0, by decide, by decide, by decide⟩
  have he := h.2.2 _ _ _ _ _ entry.hasTexts_encode entry.read?_storedAt
  refine ⟨_, entry, rfl, hr, ((h.1 _ _ hgood).1 [0x41]).mpr (by decide), (h.1 _ _ hbad).2.mpr ?_,
    (he.1 [0x41]).mpr String.toList_ofList⟩
  rw [← Base64.exists_eq_encode_iff]
  rintro ⟨bytes, hb⟩
  have hn : Base64.standard.decode? "QR==".toList = none := by decide
  rw [Base64.decode?_eq_some_iff.mpr hb] at hn
  cases hn

end RequestScript.FileStore
