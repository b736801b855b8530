import RequestScript.Proofs.FileStore.Frame
import RequestScript.Proofs.FileStore.Sharing

namespace RequestScript

/-- A put is there after some changes, in whatever order, if none of the others is made under its
key. -/
theorem StoreChange.find?_applyAll_put {held : Bindings String} {key : String} {value : Bytes}
    {changes : List StoreChange} (hm : .put key value ∈ changes)
    (ho : ∀ change ∈ changes, change.key = key → change = .put key value) :
    (applyAll held changes).find? key = some (FileStore.valueText value) := by
  induction changes using List.reverseRecOn with
  | nil => cases hm
  | append_singleton changes last ih =>
    rw [applyAll_snoc, find?_apply]
    by_cases hk : key = last.key
    · rw [if_pos hk, ho last (by simp) hk.symm]
      rfl
    · rw [if_neg hk]
      refine ih ?_ fun change hc => ho change (List.mem_append_left _ hc)
      rcases List.mem_append.mp hm with hm | hm
      · exact hm
      · exact absurd (congrArg StoreChange.key (List.mem_singleton.mp hm)) hk

namespace SharedFile

open FileStore FileEvent

def look (path : FilePath) (call : FileCall) : FileEvent :=
  ⟨call, .read path, none⟩

/-- How a call replaces the file that has looked at it. -/
def replacement (path : FilePath) (call : FileCall) (bytes : Bytes) : List FileEvent := [
  ⟨call, .create (draftOf path call.tag), none⟩,
  ⟨call, .write (draftOf path call.tag) bytes, none⟩,
  ⟨call, .flush (draftOf path call.tag), none⟩,
  ⟨call, .rename (draftOf path call.tag) path, some (.ok ())⟩]

/-- A call that runs while no other call does anything overlaps nothing. -/
theorem noneOverlaps_append_call {log : List FileEvent} (h : NoneOverlaps log) (path : FilePath)
    (call : FileCall) (bytes : Bytes) :
    NoneOverlaps (log ++ look path call :: replacement path call bytes) := by
  have hs : log ++ look path call :: replacement path call bytes =
      log ++ [look path call] ++ [⟨call, .create (draftOf path call.tag), none⟩] ++
        [⟨call, .write (draftOf path call.tag) bytes, none⟩] ++
        [⟨call, .flush (draftOf path call.tag), none⟩] ++
        [⟨call, .rename (draftOf path call.tag) path, some (.ok ())⟩] := by
    simp [replacement]
  rw [hs]
  unfold NoneOverlaps at h ⊢
  simp only [throughout_snoc, replacedSinceLook_snoc]
  refine ⟨⟨⟨⟨⟨h, ?_⟩, ?_⟩, ?_⟩, ?_⟩, ?_⟩ <;> simp [replaces, looks, look]

/-- A call that replaces the file has looked at it. -/
theorem looks_before_replaces (path : FilePath) (call : FileCall) (bytes : Bytes) :
    Throughout (fun since event => event.replaces →
      ∃ look ∈ since, look.call.store = event.call.store ∧ look.looks)
      (look path call :: replacement path call bytes) := by
  intro before event after hs hr
  cases before with
  | nil =>
    cases (List.cons.inj hs).1
    exact absurd hr (not_replaces_of_looks ⟨path, rfl⟩)
  | cons first rest =>
    obtain ⟨rfl, hrest⟩ := List.cons.inj hs
    have hm : event ∈ replacement path call bytes := by simp [hrest]
    have hcall : event.call = call := by
      simp only [replacement, List.mem_cons, List.not_mem_nil, or_false] at hm
      rcases hm with rfl | rfl | rfl | rfl <;> rfl
    exact ⟨look path call, List.mem_cons_self, by rw [hcall]; rfl, path, rfl⟩

section Runs

variable {base : FileTree} {path : FilePath} {destination : Location} {held : Bindings String}
  {shared : SharedFile} {call : FileCall}

theorem Sound.run_look (h : Sound base path destination held shared)
    (htask : shared.tasks call.store = some ⟨call, call.change.on ⟨path, true⟩ call.tag⟩)
    (hi : call.change.isIdle (shownAfter held shared.log).texts = false) :
    ∃ workspace bytes, shared.take path (.asks call.store) =
        shared.proceed call (.read path) workspace (creating path call.tag bytes) ∧
      Sound base path destination held
        (shared.proceed call (.read path) workspace (creating path call.tag bytes)) := by
  obtain ⟨rest, hask, hn⟩ := Stage.on_eq_ask path call
  have hleft : shared.tasks call.store = some ⟨call, .ask (.read path) rest⟩ := by
    rw [htask, ← hask]
    rfl
  obtain ⟨workspace, answer, hmet, ht, hs⟩ := h.step hleft
  rw [hn answer _ hmet, Stage.next, hi] at ht hs
  exact ⟨workspace, _, ht, hs⟩

theorem Sound.run_replacement {bytes : Bytes} (h : Sound base path destination held shared)
    (htask : shared.tasks call.store = some ⟨call, creating path call.tag bytes⟩) :
    ∃ workspace later, shared.run path (List.replicate 4 (.asks call.store)) = later ∧
      Sound base path destination held later ∧
      later = ⟨workspace, Function.update shared.tasks call.store (some ⟨call, finished path⟩),
        shared.log ++ replacement path call bytes, shared.begun⟩ := by
  obtain ⟨w₁, a₁, rfl, h₁, s₁⟩ := h.step htask
  obtain ⟨w₂, a₂, rfl, h₂, s₂⟩ := s₁.step (Function.update_self _ _ _)
  obtain ⟨w₃, a₃, rfl, h₃, s₃⟩ := s₂.step (Function.update_self _ _ _)
  obtain ⟨w₄, a₄, rfl, h₄, s₄⟩ := s₃.step (Function.update_self _ _ _)
  refine ⟨w₄, _, ?_, s₄, ?_⟩
  · simp only [run, List.replicate, List.foldl]
    rw [h₁, h₂, h₃, h₄]
  · simp only [SharedFile.proceed, Function.update_idem, List.append_assoc]
    rfl

theorem Sound.run_call (h : Sound base path destination held shared)
    (htask : shared.tasks call.store = some ⟨call, call.change.on ⟨path, true⟩ call.tag⟩)
    (hi : call.change.isIdle (shownAfter held shared.log).texts = false) :
    ∃ workspace bytes later, shared.run path (List.replicate 5 (.asks call.store)) = later ∧
      Sound base path destination held later ∧
      later = ⟨workspace, Function.update shared.tasks call.store (some ⟨call, finished path⟩),
        shared.log ++ look path call :: replacement path call bytes, shared.begun⟩ := by
  obtain ⟨between, bytes, hl, hs⟩ := h.run_look htask hi
  obtain ⟨workspace, later, hr, hs, he⟩ := hs.run_replacement (Function.update_self _ _ _)
  refine ⟨workspace, bytes, later, ?_, hs, ?_⟩
  · rw [← hr, ← hl]
    rfl
  · rw [he]
    simp only [SharedFile.proceed, Function.update_idem, List.append_assoc]
    rfl

variable {workspace : Workspace} {first second : FileCall}

theorem run_begins (workspace : Workspace) (path : FilePath) (hne : first.store ≠ second.store) :
    (ofWorkspace workspace).run path [.begins first, .begins second] =
      (((ofWorkspace workspace).begin path first).begin path second) := by
  have hi : ((ofWorkspace workspace).begin path first).isIdle second.store = true := by
    simp only [isIdle, pending, begin, Function.update_of_ne hne.symm, ofWorkspace]
    rfl
  have hidle : (ofWorkspace workspace).isIdle first.store = true := rfl
  show take path (take path (ofWorkspace workspace) (.begins first)) (.begins second) = _
  rw [take_begins hidle, take_begins hi]

theorem sound_begins
    (hd : workspace.tree.locateFile path .notADirectory = .ok destination)
    (hr : textsIn workspace.tree path = .ok held) (hne : first.store ≠ second.store)
    (hapart : DraftsApart workspace.tree path [first, second]) :
    Sound workspace.tree path destination held
      (((ofWorkspace workspace).begin path first).begin path second) := by
  have hb := run_begins workspace path hne
  have h := sound_run [.begins first, .begins second] hd hr (by rw [hb]; exact hapart)
  rwa [hb] at h

/-- Two stores look at the file before either of them replaces it. -/
def overlapTurns (first second : FileCall) : List Turn :=
  [.begins first, .begins second] ++ [.asks first.store] ++ [.asks second.store] ++
    List.replicate 4 (.asks first.store) ++ List.replicate 4 (.asks second.store)

/-- Of two changes that overlap, the one that comes to its end first is lost. -/
theorem run_overlapTurns (workspace : Workspace)
    (hd : workspace.tree.locateFile path .notADirectory = .ok destination)
    (hr : textsIn workspace.tree path = .ok held) (hne : first.store ≠ second.store)
    (hapart : DraftsApart workspace.tree path [first, second])
    (hi : first.change.isIdle held = false) (hi' : second.change.isIdle held = false) :
    ∃ shared bytes bytes', (ofWorkspace workspace).run path (overlapTurns first second) = shared ∧
      Sound workspace.tree path destination held shared ∧ shared.begun = [first, second] ∧
      shared.log = [look path first, look path second] ++ replacement path first bytes ++
        replacement path second bytes' ∧
      textsIn shared.workspace.tree path = .ok (second.change.apply held) := by
  have h₀ := sound_begins hd hr hne hapart
  obtain ⟨w₁, b₁, e₁, h₁⟩ := h₀.run_look
    ((Function.update_of_ne hne _ _).trans (Function.update_self _ _ _)) hi
  obtain ⟨w₂, b₂, e₂, h₂⟩ := h₁.run_look
    ((Function.update_of_ne hne.symm _ _).trans (Function.update_self _ _ _)) hi'
  obtain ⟨w₃, s₃, e₃, h₃, rfl⟩ := h₂.run_replacement
    ((Function.update_of_ne hne _ _).trans (Function.update_self _ _ _))
  obtain ⟨w₄, s₄, e₄, h₄, rfl⟩ := h₃.run_replacement
    ((Function.update_of_ne hne.symm _ _).trans (Function.update_self _ _ _))
  have htexts : (shownAfter held ([look path first, look path second] ++
      replacement path first b₁ ++ replacement path second b₂)).texts =
      second.change.apply held := by
    simp [shownAfter, look, replacement, effect]
  refine ⟨_, b₁, b₂, ?_, h₄, rfl, rfl, htexts ▸ h₄.shows⟩
  have hlook (shared : SharedFile) (turn : Turn) : shared.run path [turn] = shared.take path turn :=
    rfl
  rw [overlapTurns, run_append, run_append, run_append, run_append, run_begins _ _ hne, hlook,
    hlook, e₁, e₂, e₃, e₄]

/-- The store that ends its call first does so before the other one looks at the file. -/
def serialTurns (first second : FileCall) : List Turn :=
  [.begins first, .begins second] ++ List.replicate 5 (.asks first.store) ++
    List.replicate 5 (.asks second.store)

theorem run_serialTurns (workspace : Workspace)
    (hd : workspace.tree.locateFile path .notADirectory = .ok destination)
    (hr : textsIn workspace.tree path = .ok held) (hne : first.store ≠ second.store)
    (hapart : DraftsApart workspace.tree path [first, second])
    (hi : first.change.isIdle held = false)
    (hi' : second.change.isIdle (first.change.apply held) = false) :
    ∃ shared bytes bytes', (ofWorkspace workspace).run path (serialTurns first second) = shared ∧
      shared.begun = [first, second] ∧
      shared.log = look path first :: replacement path first bytes ++
        look path second :: replacement path second bytes' := by
  have h₀ := sound_begins hd hr hne hapart
  obtain ⟨w₁, b₁, s₁, e₁, h₁, rfl⟩ := h₀.run_call
    ((Function.update_of_ne hne _ _).trans (Function.update_self _ _ _)) hi
  have htexts : (shownAfter held (look path first :: replacement path first b₁)).texts =
      first.change.apply held := by
    simp [shownAfter, look, replacement, effect]
  obtain ⟨w₂, b₂, s₂, e₂, -, hs⟩ := h₁.run_call
    ((Function.update_of_ne hne.symm _ _).trans (Function.update_self _ _ _))
    ((congrArg (fun texts => second.change.isIdle texts) htexts).trans hi')
  refine ⟨s₂, b₁, b₂, ?_, by rw [hs]; rfl, by rw [hs]; rfl⟩
  rw [serialTurns, run_append, run_append, run_begins _ _ hne, e₁, e₂]

end Runs

theorem perm_of_filter_store {calls others : List FileCall}
    (h : ∀ store, calls.filter (fun call => call.store = store) =
      others.filter (fun call => call.store = store)) : calls.Perm others := by
  classical
  rw [List.perm_iff_count]
  intro call
  have hc (list : List FileCall) :
      (list.filter fun other => other.store = call.store).count call = list.count call :=
    List.count_filter (by simp)
  rw [← hc calls, h call.store, hc]

/-- What a put has stored is got by a store if no call has changed the key since, or put back what
was there before it had looked. -/
theorem run_get_put {workspace : Workspace} {path : FilePath} {held : Bindings String}
    {before after : List FileEvent} {put : FileEvent} {key : String} {value : Bytes}
    (ht : textsIn workspace.tree path = .ok (shownAfter held (before ++ put :: after)).texts)
    (hp : put.replaces) (hcall : put.call.change = .put key value)
    (hkey : ∀ event ∈ after, event.replaces → event.call.change.key ≠ key)
    (hlook : Throughout (fun since event => event.replaces →
      ∃ look ∈ since, look.call.store = event.call.store ∧ look.looks) after) (tag : List Char) :
    workspace.run (FileStore.call ⟨path, true⟩ tag (.get key)) =
      (workspace, ⟨path, true⟩, .ok (some value)) := by
  rw [run_call_get ht, valueIn, find?_shownAfter_put hp hcall hkey hlook]
  simp only [valueOf_valueText]
  rfl

/-- However the requests of the calls of many stores of one file are mixed, every call succeeds and
has at most five requests, and the file holds what the stores have made of what they have seen. If no
call replaces the file when another one has replaced it since it looked, that is what the calls would
have left one after another in the order of their ends. What a put has stored is got as long as nobody
changes its key, or replaces the file without having looked at it since. -/
theorem calls_serial_unless_overlapping (path : FilePath) (start : Workspace)
    (held : Bindings String) (destination : Location) (turns : List Turn)
    (hr : textsIn start.tree path = .ok held)
    (hd : start.tree.locateFile path .notADirectory = .ok destination)
    (hapart : DraftsApart start.tree path ((ofWorkspace start).run path turns).begun) :
    let shared := (ofWorkspace start).run path turns
    (∀ event ∈ shared.log, ∀ reply, event.reply = some reply → reply = .ok ()) ∧
    (∀ store, (shared.run path (List.replicate 5 (.asks store))).isIdle store = true) ∧
    (∀ store, shared.begun.filter (fun call => call.store = store) =
      (endedCalls shared.log).filter (fun call => call.store = store) ++ shared.pending store) ∧
    textsIn shared.workspace.tree path = .ok (shownAfter held shared.log).texts ∧
    (NoneOverlaps shared.log →
      (∃ later, StoreChange.Runs path start
          ((endedCalls shared.log).map fun call => (call.tag, call.change)) later ∧
        textsIn shared.workspace.tree path = textsIn later.tree path) ∧
      ((∀ store, shared.isIdle store = true) → (endedCalls shared.log).Perm shared.begun)) ∧
    ∀ before put after key value, shared.log = before ++ put :: after → put.replaces →
      put.call.change = .put key value →
      (∀ event ∈ after, event.replaces → event.call.change.key ≠ key) →
      Throughout (fun since event => event.replaces →
        ∃ look ∈ since, look.call.store = event.call.store ∧ look.looks) after →
      ∀ tag, shared.workspace.run (FileStore.call ⟨path, true⟩ tag (.get key)) =
        (shared.workspace, ⟨path, true⟩, .ok (some value)) := by
  intro shared
  have h : Sound start.tree path destination held shared := sound_run turns hd hr hapart
  refine ⟨fun event hm reply he => h.reply_eq_ok hm he, h.isIdle_run_five, h.counted, h.shows,
    fun hn => ⟨?_, fun hidle => ?_⟩, fun before put after key value hs hp hcall hkey hlook => ?_⟩
  · have hplaces : ∀ change ∈ (endedCalls shared.log).map fun call => (call.tag, call.change),
        ∃ location, DraftPlace start.tree path change.1 location := by
      intro change hm
      obtain ⟨call, hc, rfl⟩ := List.mem_map.mp hm
      obtain ⟨hslash, hfree⟩ := hapart.free call (h.mem_begun hc)
      exact exists_draftPlace hslash hfree
    obtain ⟨later, hruns⟩ := StoreChange.exists_runs_of_draftPlace (.refl _) hd hr hplaces
    refine ⟨later, hruns, ?_⟩
    rw [h.shows, StoreChange.textsIn_of_runs hruns hr, texts_eq_applyAll h.consistent hn,
      List.map_map]
    rfl
  · refine perm_of_filter_store fun store => ?_
    have hpending : shared.pending store = [] := List.isEmpty_iff.mp (hidle store)
    rw [h.counted store, hpending, List.append_nil]
  · exact run_get_put (hs ▸ h.shows) hp hcall hkey hlook

def putOne : FileCall :=
  ⟨0, ['a'], .put "a" [49]⟩

def putTwo : FileCall :=
  ⟨1, ['b'], .put "b" [50]⟩

theorem located_ofDirectory :
    (FileTree.ofDirectory "w").locateFile ⟨['c']⟩ .notADirectory = .ok ["w", "c"] :=
  (FileTree.leads_name (by decide) (by decide) ⟨by decide, by decide, by decide⟩ rfl).locateFile
    (by decide) _

theorem textsIn_ofDirectory : textsIn (.ofDirectory "w") ⟨['c']⟩ = .ok ∅ := by
  rw [textsIn, FileTree.read_of_locateFile located_ofDirectory]
  rfl

theorem draftsApart_ofDirectory :
    DraftsApart (.ofDirectory "w") ⟨['c']⟩ [putOne, putTwo] := by
  have hone : draftOf ⟨['c']⟩ ['a'] = ⟨['c', '.', 'a', '.', 't', 'm', 'p']⟩ := by decide
  have htwo : draftOf ⟨['c']⟩ ['b'] = ⟨['c', '.', 'b', '.', 't', 'm', 'p']⟩ := by decide
  refine ⟨?_, by decide⟩
  simp only [List.forall_mem_cons, putOne, putTwo, hone, htwo]
  refine ⟨⟨by decide, ?_⟩, ⟨by decide, ?_⟩, fun _ hm => absurd hm List.not_mem_nil⟩ <;>
    exact FileTree.isFree_name (by decide) (by decide) ⟨by decide, by decide, by decide⟩ rfl rfl

/-- Two puts that are begun together, and do not overlap. -/
theorem calls_serial_unless_overlapping_two_puts :
    let start : Workspace := ⟨.ofDirectory "w", ⟨0, 0, by decide, by decide, by decide⟩⟩
    let shared := (ofWorkspace start).run ⟨['c']⟩ (serialTurns putOne putTwo)
    NoneOverlaps shared.log ∧
    (∃ later, StoreChange.Runs ⟨['c']⟩ start
        [(['a'], .put "a" [49]), (['b'], .put "b" [50])] later ∧
      textsIn shared.workspace.tree ⟨['c']⟩ = textsIn later.tree ⟨['c']⟩) ∧
    shared.workspace.run (FileStore.call ⟨⟨['c']⟩, true⟩ [] (.get "a")) =
      (shared.workspace, ⟨⟨['c']⟩, true⟩, .ok (some [49])) ∧
    shared.workspace.run (FileStore.call ⟨⟨['c']⟩, true⟩ [] (.get "b")) =
      (shared.workspace, ⟨⟨['c']⟩, true⟩, .ok (some [50])) := by
  intro start shared
  obtain ⟨_, one, two, rfl, hbegun, hlog⟩ := run_serialTurns start located_ofDirectory
    textsIn_ofDirectory (by decide) draftsApart_ofDirectory rfl rfl
  have hnone : NoneOverlaps shared.log := by
    rw [hlog]
    exact noneOverlaps_append_call (noneOverlaps_append_call (throughout_nil _) _ putOne one) _
      putTwo two
  have hended : endedCalls shared.log = [putOne, putTwo] := by
    rw [hlog]
    rfl
  obtain ⟨-, -, -, -, hserial, hget⟩ := calls_serial_unless_overlapping ⟨['c']⟩ start ∅ _
    (serialTurns putOne putTwo) textsIn_ofDirectory located_ofDirectory
    (by rw [hbegun]; exact draftsApart_ofDirectory)
  refine ⟨hnone, ?_, ?_, ?_⟩
  · obtain ⟨hruns, -⟩ := hserial hnone
    rw [hended] at hruns
    exact hruns
  · refine hget [_, _, _, _] _ (look _ putTwo :: replacement _ putTwo two) "a" [49] hlog
      ⟨_, _, rfl⟩ rfl ?_ (looks_before_replaces _ putTwo two) []
    simp [look, replacement, putTwo, StoreChange.key]
  · exact hget (look _ putOne :: replacement _ putOne one ++ [_, _, _, _]) _ [] "b" [50] hlog
      ⟨_, _, rfl⟩ rfl (by simp) (throughout_nil _) []

/-- Two puts under different keys that overlap: both succeed, and one is lost. -/
theorem overlapping_put_lost :
    let start : Workspace := ⟨.ofDirectory "w", ⟨0, 0, by decide, by decide, by decide⟩⟩
    let shared := (ofWorkspace start).run ⟨['c']⟩ (overlapTurns putOne putTwo)
    start.run (openAt ⟨['c']⟩) = (start, .ok ⟨⟨['c']⟩, true⟩) ∧
    (∀ store, shared.isIdle store = true) ∧
    (∀ event ∈ shared.log, ∀ reply, event.reply = some reply → reply = .ok ()) ∧
    shared.begun = [putOne, putTwo] ∧ endedCalls shared.log = shared.begun ∧
    (∀ order later, order.Perm (shared.begun.map fun call => (call.tag, call.change)) →
      StoreChange.Runs ⟨['c']⟩ start order later →
      textsIn later.tree ⟨['c']⟩ ≠ textsIn shared.workspace.tree ⟨['c']⟩) ∧
    shared.workspace.run (FileStore.call ⟨⟨['c']⟩, true⟩ [] (.get "a")) =
      (shared.workspace, ⟨⟨['c']⟩, true⟩, .ok none) := by
  intro start shared
  obtain ⟨_, one, two, rfl, hsound, hbegun, hlog, htexts⟩ := run_overlapTurns start
    located_ofDirectory textsIn_ofDirectory (by decide) draftsApart_ofDirectory rfl rfl
  have hended : endedCalls shared.log = shared.begun := by
    rw [hbegun, hlog]
    rfl
  have hlost : (putTwo.change.apply ∅).find? "a" = none := by decide
  refine ⟨rfl, fun store => ?_, fun event hm reply he => hsound.reply_eq_ok hm he, hbegun, hended,
    fun order later hperm hruns he => ?_, ?_⟩
  · have hc := hsound.counted store
    rw [hended] at hc
    exact List.isEmpty_iff.mpr (List.self_eq_append_right.mp hc)
  · have hmem (change : StoreChange) : change ∈ order.map Prod.snd ↔
        change = .put "a" [49] ∨ change = .put "b" [50] := by
      rw [(hperm.map Prod.snd).mem_iff, hbegun]
      simp [putOne, putTwo]
    have hput : (StoreChange.applyAll ∅ (order.map Prod.snd)).find? "a" =
        some (valueText [49]) := by
      refine StoreChange.find?_applyAll_put ((hmem _).mpr (Or.inl rfl)) fun change hc hk => ?_
      rcases (hmem change).mp hc with rfl | rfl
      · rfl
      · exact absurd hk (by decide)
    rw [StoreChange.textsIn_of_runs hruns textsIn_ofDirectory, htexts] at he
    rw [Except.ok.inj he, hlost] at hput
    cases hput
  · rw [run_call_get htexts, valueIn, hlost]
    rfl

end SharedFile

end RequestScript
