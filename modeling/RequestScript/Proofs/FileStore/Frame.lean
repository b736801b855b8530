import RequestScript.Proofs.Cache.Steps
import RequestScript.Proofs.FileStore.Changes

namespace RequestScript

namespace FileStore

/-- The cache entry that a text in a store file stands for. -/
def entryOf? (text : String) : Option CacheEntry :=
  (Base64.standard.decode? text.toList).bind CacheEntry.decode?

theorem entryOf?_valueText (entry : CacheEntry) :
    entryOf? (valueText entry.encode) = some entry.canonical := by
  rw [entryOf?, valueText, String.toList_ofList, Base64.decode?_encode]
  exact CacheEntry.decode?_encode entry

theorem entryOf?_put (held : Bindings String) (key other : String) (entry : CacheEntry) :
    (((StoreChange.put key entry.encode).apply held).find? other).bind entryOf? =
      if other = key then some entry.canonical else (held.find? other).bind entryOf? := by
  have hf : ((StoreChange.put key entry.encode).apply held).find? other =
      if other = key then some (valueText entry.encode) else held.find? other :=
    StoreChange.find?_apply _ held other
  rw [hf]
  split
  · rw [Option.bind_some, entryOf?_valueText]
  · rfl

theorem seen_valueIn (held : Bindings String) (key : String) :
    Cache.seen (valueIn key held) = .ok ((held.find? key).bind entryOf?) := by
  unfold valueIn
  cases held.find? key with
  | none => rfl
  | some text =>
    show Cache.seen ((valueOf key text).map some) = .ok (entryOf? text)
    unfold valueOf Base64.decode entryOf?
    cases Base64.standard.decode? text.toList <;> rfl

variable {workspace : Workspace} {path : FilePath} {tag : List Char} {held : Bindings String}

theorem run_call_get (hr : textsIn workspace.tree path = .ok held) (key : String) :
    workspace.run (call ⟨path, true⟩ tag (.get key)) =
      (workspace, ⟨path, true⟩, valueIn key held) := by
  rw [call_get_eq]
  show (workspace, _, (textsIn workspace.tree path).bind (valueIn key)) = _
  rw [hr]
  rfl

theorem run_peek (hr : textsIn workspace.tree path = .ok held) (key : String) :
    workspace.run (serve ⟨path, true⟩ tag (Cache.peek key)) =
      (workspace, ⟨path, true⟩, .ok ((held.find? key).bind entryOf?)) := by
  rw [Cache.peek_eq]
  show workspace.run (call ⟨path, true⟩ tag (.get key) >>= _) = _
  rw [Workspace.run_bind, run_call_get hr, ← seen_valueIn]
  rfl

theorem run_cacheGet_of_undecodable (hr : textsIn workspace.tree path = .ok held) {key : String}
    (hk : (held.find? key).bind entryOf? = none) (ttl : Nat) :
    workspace.run (serve ⟨path, true⟩ tag (Cache.get key ttl)) =
      (workspace, ⟨path, true⟩, .error .miss) := by
  rw [Cache.get_eq]
  show workspace.run (call ⟨path, true⟩ tag (.get key) >>= _) = _
  rw [Workspace.run_bind, run_call_get hr, Cache.judge_eq, seen_valueIn, hk]
  rfl

theorem run_cacheGet_of_young (hr : textsIn workspace.tree path = .ok held) {key : String}
    {entry : CacheEntry} {ttl : Nat} (hk : (held.find? key).bind entryOf? = some entry)
    (hy : entry.age workspace.clock < ttl) :
    workspace.run (serve ⟨path, true⟩ tag (Cache.get key ttl)) =
      (workspace, ⟨path, true⟩, .ok entry.data) := by
  have hw : Cache.weigh key ttl entry workspace.clock = .done (.ok entry.data) :=
    if_neg (Nat.not_le.mpr hy)
  rw [Cache.get_eq]
  show workspace.run (call ⟨path, true⟩ tag (.get key) >>= _) = _
  rw [Workspace.run_bind, run_call_get hr, Cache.judge_eq, seen_valueIn, hk]
  show workspace.run (serve ⟨path, true⟩ tag (Cache.weigh key ttl entry workspace.clock)) = _
  rw [hw]
  rfl

theorem run_cachePut (workspace : Workspace) (store : FileStore) (tag : List Char) (key : String)
    (data : Bytes) :
    workspace.run (store.serve tag (Cache.put key data)) =
      ((workspace.run ((StoreChange.put key
          (CacheEntry.ofData data workspace.clock).encode).on store tag)).1,
        (workspace.run ((StoreChange.put key
          (CacheEntry.ofData data workspace.clock).encode).on store tag)).2.1,
        (workspace.run ((StoreChange.put key
          (CacheEntry.ofData data workspace.clock).encode).on store tag)).2.2.mapError .store) := by
  show workspace.run (store.call tag
    (.put key (CacheEntry.ofData data workspace.clock).encode) >>= _) = _
  rw [Workspace.run_bind]
  rfl

theorem run_cachePut_ok {later : Workspace} {store after : FileStore} {key : String} {data : Bytes}
    (h : workspace.run (store.serve tag (Cache.put key data)) = (later, after, .ok ())) :
    workspace.run ((StoreChange.put key (CacheEntry.ofData data workspace.clock).encode).on
      store tag) = (later, after, .ok ()) := by
  rw [run_cachePut] at h
  cases hp : workspace.run ((StoreChange.put key
    (CacheEntry.ofData data workspace.clock).encode).on store tag) with
  | mk between result =>
    obtain ⟨next, answer⟩ := result
    rw [hp] at h
    cases answer with
    | error error => cases h
    | ok value =>
      cases h
      rfl

/-- Whatever a file holds under other keys, a change under one key leaves it there as it is; what a
cache cannot decode is missing under its own key alone, and can be replaced. -/
theorem changes_touch_one_key (store : FileStore) (tag : List Char) (workspace : Workspace)
    (held : Bindings String) (ho : store.isOpen = true)
    (hr : textsIn workspace.tree store.path = .ok held) :
    (∀ (change : StoreChange) (later : Workspace) (after : FileStore),
      workspace.run (change.on store tag) = (later, after, .ok ()) →
      after = store ∧ ∃ kept, textsIn later.tree store.path = .ok kept ∧
        kept.find? change.key = change.value?.map valueText ∧
        (∀ other, other ≠ change.key → kept.find? other = held.find? other) ∧
        later.run (store.call tag (.get change.key)) = (later, store, .ok change.value?) ∧
        ∀ other, other ≠ change.key →
          (later.run (store.call tag (.get other))).2.2 =
            (workspace.run (store.call tag (.get other))).2.2) ∧
    (∀ key, workspace.run (store.serve tag (Cache.peek key)) =
      (workspace, store, .ok ((held.find? key).bind entryOf?))) ∧
    (∀ key ttl, (held.find? key).bind entryOf? = none →
      workspace.run (store.serve tag (Cache.get key ttl)) = (workspace, store, .error .miss)) ∧
    (∀ key entry ttl, (held.find? key).bind entryOf? = some entry →
      entry.age workspace.clock < ttl →
      workspace.run (store.serve tag (Cache.get key ttl)) = (workspace, store, .ok entry.data)) ∧
    (∀ key data later after,
      workspace.run (store.serve tag (Cache.put key data)) = (later, after, .ok ()) →
      ∀ other, later.run (after.serve tag (Cache.peek other)) = (later, store,
        .ok (if other = key then some (CacheEntry.ofData data workspace.clock).canonical
          else (held.find? other).bind entryOf?))) ∧
    ∀ location destination,
      workspace.tree.locateFile (draftOf store.path tag) .isADirectory = .ok location →
      workspace.tree.locateFile store.path .notADirectory = .ok destination →
      (∀ change : StoreChange, ∃ later,
        workspace.run (change.on store tag) = (later, store, .ok ())) ∧
      ∀ key data, ∃ later,
        workspace.run (store.serve tag (Cache.put key data)) = (later, store, .ok ()) := by
  obtain ⟨path, _⟩ := store
  cases ho
  dsimp only at hr ⊢
  refine ⟨fun change later after h => ?_, run_peek hr, fun key ttl hk =>
    run_cacheGet_of_undecodable hr hk ttl, fun key entry ttl hk hy =>
    run_cacheGet_of_young hr hk hy, fun key data later after h other => ?_,
    fun location destination hl hd => ⟨StoreChange.exists_run_on hr hl hd, fun key data => ?_⟩⟩
  · obtain ⟨rfl, hk⟩ := StoreChange.textsIn_of_run_on hr h
    have hf := change.find?_apply held
    refine ⟨rfl, change.apply held, hk, by rw [hf, if_pos rfl], fun other hn => ?_, ?_,
      fun other hn => ?_⟩
    · rw [hf, if_neg hn]
    · rw [run_call_get hk, valueIn, hf, if_pos rfl]
      cases change with
      | put key value =>
        simp only [StoreChange.value?, Option.map_some, valueOf_valueText]
        rfl
      | delete key => rfl
    · rw [run_call_get hk, run_call_get hr, valueIn, valueIn, hf, if_neg hn]
  · have hp := run_cachePut_ok h
    obtain ⟨rfl, hk⟩ := StoreChange.textsIn_of_run_on hr hp
    rw [run_peek hk, entryOf?_put]
  · obtain ⟨later, hp⟩ := StoreChange.exists_run_on hr hl hd
      (.put key (CacheEntry.ofData data workspace.clock).encode)
    exact ⟨later, by rw [run_cachePut, hp]; rfl⟩

/-- A text that is no base 64 stays where it is when its neighbour is replaced. -/
theorem bad_neighbour_kept :
    ∃ later kept,
      (⟨(FileTree.ofDirectory "w").put ["w", "c"] (.file (encodeText (StoreFile.print
          (Bindings.insert ∅ "bad" "!")))), ⟨0, 0, by decide, by decide, by decide⟩⟩ :
        Workspace).run ((StoreChange.put "good" [1]).on ⟨⟨['c']⟩, true⟩ ['a']) =
        (later, ⟨⟨['c']⟩, true⟩, .ok ()) ∧
      textsIn later.tree ⟨['c']⟩ = .ok kept ∧ kept.find? "bad" = some "!" ∧
      kept.find? "good" = some (valueText [1]) := by
  have hd : draftOf ⟨['c']⟩ ['a'] = ⟨['c', '.', 'a', '.', 't', 'm', 'p']⟩ := by decide
  have hl (node : FileNode) : ((FileTree.ofDirectory "w").put ["w", "c"] node).Leads ⟨['c']⟩
      ["w"] "c" := FileTree.leads_name (by decide) (by decide) ⟨by decide, by decide, by decide⟩ rfl
  have ht (node : FileNode) : ((FileTree.ofDirectory "w").put ["w", "c"] node).Leads
      ⟨['c', '.', 'a', '.', 't', 'm', 'p']⟩ ["w"] "c.a.tmp" :=
    FileTree.leads_name (by decide) (by decide) ⟨by decide, by decide, by decide⟩ rfl
  have hr (texts : Bindings String) : textsIn ((FileTree.ofDirectory "w").put ["w", "c"]
      (.file (encodeText (StoreFile.print texts)))) ⟨['c']⟩ = .ok texts :=
    textsIn_of_content? (FileTree.content?_eq_some_iff.mpr ⟨_, (hl _).points, rfl⟩)
  have h := changes_touch_one_key ⟨⟨['c']⟩, true⟩ ['a'] ⟨(FileTree.ofDirectory "w").put ["w", "c"]
    (.file (encodeText (StoreFile.print (Bindings.insert ∅ "bad" "!")))),
      ⟨0, 0, by decide, by decide, by decide⟩⟩ (Bindings.insert ∅ "bad" "!") rfl (hr _)
  obtain ⟨hc, -, -, -, -, hs⟩ := h
  rw [hd] at hs
  obtain ⟨later, hp⟩ := (hs _ _ ((ht _).locateFile (by decide) _)
    ((hl _).locateFile (by rw [FileTree.find?_put (by simp)]; simp) _)).1 (.put "good" [1])
  obtain ⟨-, kept, hk, hg, ho, -⟩ := hc _ _ _ hp
  refine ⟨later, kept, hp, hk, ?_, hg⟩
  rw [ho "bad" (by decide), Bindings.find?_insert, if_pos rfl]

end FileStore

end RequestScript
