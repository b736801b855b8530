import RequestScript.Proofs.FileStore

namespace RequestScript

/-- A call together with what a store has answered. -/
abbrev StoreReply := (call : StoreCall) × call.Answer

/-- A store in memory after some calls, and its replies. -/
def MemoryStore.callAll (store : MemoryStore) : List StoreCall → MemoryStore × List StoreReply
  | [] => (store, [])
  | call :: rest =>
    let (next, answer) := store.call call
    let (last, replies) := next.callAll rest
    (last, ⟨call, answer⟩ :: replies)

theorem MemoryStore.callAll_append (store : MemoryStore) (before after : List StoreCall) :
    (store.callAll (before ++ after)).2 =
      (store.callAll before).2 ++ ((store.callAll before).1.callAll after).2 := by
  induction before generalizing store with
  | nil => rfl
  | cons call rest ih => exact congrArg (List.cons _) (ih (store.call call).1)

theorem MemoryStore.callAll_closed (calls : List StoreCall) :
    ((⟨none⟩ : MemoryStore).callAll calls).2 = calls.map fun call => ⟨call, call.whenClosed⟩ := by
  induction calls with
  | nil => rfl
  | cons call rest ih => exact congrArg (List.cons _) ih

theorem MemoryStore.callAll_close (store : MemoryStore) (after : List StoreCall) :
    (store.callAll (.close :: after)).2 =
      ⟨.close, .ok ()⟩ :: after.map fun call => ⟨call, call.whenClosed⟩ := by
  obtain ⟨values⟩ := store
  cases values with
  | none => exact congrArg (List.cons _) (callAll_closed after)
  | some values => exact congrArg (List.cons _) (callAll_closed after)

/-- A store in a file after some calls, each with the name of its draft, and its replies. -/
def FileStore.callAll (store : FileStore) :
    List (List Char × StoreCall) → HostProgram (FileStore × List StoreReply)
  | [] => return (store, [])
  | (tag, call) :: rest => do
    let (next, answer) ← store.call tag call
    let (last, replies) ← next.callAll rest
    return (last, ⟨call, answer⟩ :: replies)

/-- What is under each key after some calls, of which those behind a closing one do nothing. -/
def StoreCall.effect (values : String → Option Bytes) : List StoreCall → String → Option Bytes
  | [] => values
  | .get _ :: rest => effect values rest
  | .put key value :: rest =>
    effect (fun other => if other = key then some value else values other) rest
  | .delete key :: rest => effect (fun other => if other = key then none else values other) rest
  | .close :: _ => values

namespace FileStore

/-- A store in a file and a store in memory that have gone through the same calls, and the values
that were left in them. -/
structure Matches (base tree : FileTree) (path : FilePath) (file : FileStore) (memory : MemoryStore)
    (values : Bindings Bytes) : Prop where
  path_eq : file.path = path
  memory_eq : memory.values = if file.isOpen then some values else none
  holds : Holds base tree path values

/-- The values after one more call. -/
def afterCall (isOpen : Bool) (values : Bindings Bytes) : StoreCall → Bindings Bytes
  | .put key value => if isOpen then values.insert key value else values
  | .delete key => if isOpen then values.erase key else values
  | _ => values

variable {base tree : FileTree} {path : FilePath} {values : Bindings Bytes}

theorem run_call {file : FileStore} {memory : MemoryStore} (clock : Instant)
    (h : Matches base tree path file memory values) {tag : List Char}
    (hd : base.IsFree (draftOf path tag)) (call : StoreCall) :
    ∃ after next, (⟨tree, clock⟩ : Workspace).run (file.call tag call) =
        (⟨after, clock⟩, (next, (memory.call call).2)) ∧
      next.isOpen = (file.isOpen && call != .close) ∧
      Matches base after path next (memory.call call).1 (afterCall file.isOpen values call) := by
  obtain ⟨location, isOpen⟩ := file
  obtain ⟨held⟩ := memory
  obtain ⟨hp, hm, hh⟩ := h
  dsimp only at hp hm
  subst hp hm
  cases isOpen with
  | false =>
    cases call
    all_goals exact ⟨tree, _, rfl, rfl, rfl, rfl, hh⟩
  | true =>
    cases call with
    | get key =>
      have hr := run_answer (run_get hh clock key) ⟨location, true⟩
      exact ⟨tree, ⟨location, true⟩, hr, rfl, rfl, rfl, hh⟩
    | put key value =>
      obtain ⟨after, hr, ha⟩ := run_put hh hd clock key value
      exact ⟨after, ⟨location, true⟩, run_answer hr _, rfl, rfl, rfl, ha⟩
    | delete key =>
      obtain ⟨after, hr, ha⟩ := run_delete hh hd clock key
      exact ⟨after, ⟨location, true⟩, run_answer hr _, rfl, rfl, rfl, ha⟩
    | close => exact ⟨tree, ⟨location, false⟩, rfl, rfl, rfl, rfl, hh⟩

theorem effect_cons (isOpen : Bool) (values : Bindings Bytes) (call : StoreCall)
    (calls : List StoreCall) (key : String) :
    (if isOpen && call != .close then
        StoreCall.effect (afterCall isOpen values call).find? calls key
      else (afterCall isOpen values call).find? key) =
      if isOpen then StoreCall.effect values.find? (call :: calls) key else values.find? key := by
  cases isOpen with
  | false => cases call <;> rfl
  | true =>
    cases call with
    | get other => rfl
    | put other value =>
      have hf : (values.insert other value).find? =
          fun key => if key = other then some value else values.find? key :=
        funext fun key => Bindings.find?_insert values other key value
      show StoreCall.effect (values.insert other value).find? calls key = _
      rw [hf]
      rfl
    | delete other =>
      have hf : (values.erase other).find? =
          fun key => if key = other then none else values.find? key :=
        funext fun key => Bindings.find?_erase values other key
      show StoreCall.effect (values.erase other).find? calls key = _
      rw [hf]
      rfl
    | close => rfl

theorem run_callAll {file : FileStore} {memory : MemoryStore} (clock : Instant)
    (h : Matches base tree path file memory values) {calls : List (List Char × StoreCall)}
    (hd : ∀ call ∈ calls, base.IsFree (draftOf path call.1)) :
    ∃ after next later, (⟨tree, clock⟩ : Workspace).run (file.callAll calls) =
        (⟨after, clock⟩, (next, (memory.callAll (calls.map Prod.snd)).2)) ∧
      Matches base after path next (memory.callAll (calls.map Prod.snd)).1 later ∧
      ∀ key, later.find? key = if file.isOpen then
        StoreCall.effect values.find? (calls.map Prod.snd) key else values.find? key := by
  induction calls generalizing tree file memory values with
  | nil => exact ⟨tree, file, values, rfl, h, fun key => by simp [StoreCall.effect]⟩
  | cons first rest ih =>
    obtain ⟨tag, call⟩ := first
    -- the drafts are free in the tree before all calls, so no call has to keep them free
    obtain ⟨between, second, hr, ho, hm⟩ := run_call clock h (hd _ List.mem_cons_self) call
    obtain ⟨after, next, later, hs, hn, hf⟩ :=
      ih hm fun call hc => hd call (List.mem_cons_of_mem _ hc)
    refine ⟨after, next, later, ?_, hn, fun key => ?_⟩
    · show (⟨tree, clock⟩ : Workspace).run (file.call tag call >>= _) = _
      rw [Workspace.run_bind, hr]
      show (⟨between, clock⟩ : Workspace).run (second.callAll rest >>= _) = _
      rw [Workspace.run_bind, hs]
      rfl
    · rw [hf key, ho]
      exact effect_cons file.isOpen values call (rest.map Prod.snd) key

theorem matches_empty (h : base.IsFree path) :
    Matches base base path ⟨path, true⟩ MemoryStore.empty ∅ :=
  ⟨rfl, rfl, holds_empty h⟩

/-- A store in a file answers every call as one in memory does, also when it is closed, and what it
has been given can be read by whoever opens its path next. -/
theorem replies_eq_memoryStore {start opened : Workspace} {store : FileStore}
    {calls : List (List Char × StoreCall)}
    (ho : start.run (openAt path) = (opened, .ok store)) (hf : opened.tree.IsFree path)
    (hd : ∀ call ∈ calls, opened.tree.IsFree (draftOf path call.1)) :
    (opened.run (store.callAll calls)).2.2 = (MemoryStore.empty.callAll (calls.map Prod.snd)).2 ∧
    (∀ before tag after, calls = before ++ (tag, .close) :: after →
      (opened.run (store.callAll calls)).2.2 = (opened.run (store.callAll before)).2.2 ++
        ⟨.close, .ok ()⟩ :: after.map fun call => ⟨call.2, call.2.whenClosed⟩) ∧
    ∀ before, before <+: calls → ∀ later, later = (opened.run (store.callAll before)).1 →
      later.run (openAt path) = (later, .ok ⟨path, true⟩) ∧
      ∀ tag key, later.run (FileStore.call ⟨path, true⟩ tag (.get key)) = (later, (⟨path, true⟩,
        .ok (StoreCall.effect (fun _ => none) (before.map Prod.snd) key))) := by
  obtain ⟨rfl, hp⟩ := run_openAt_ok ho
  obtain ⟨tree, clock⟩ := opened
  have hrun : ∀ before, before <+: calls → _ := fun before hb =>
    run_callAll clock (matches_empty hf) fun call hc => hd call (hb.subset hc)
  refine ⟨?_, fun before tag after hc => ?_, fun before hb later hl => ?_⟩
  · obtain ⟨_, _, _, hr, -, -⟩ := hrun calls List.prefix_rfl
    rw [hr]
  · subst hc
    obtain ⟨_, _, _, hr, -, -⟩ := hrun _ List.prefix_rfl
    obtain ⟨_, _, _, hb, -, -⟩ := hrun before (List.prefix_append before _)
    rw [hr, hb, List.map_append, List.map_cons, MemoryStore.callAll_append,
      MemoryStore.callAll_close, List.map_map]
    rfl
  · obtain ⟨tree', next, values, hr, hm, hv⟩ := hrun before hb
    rw [hr] at hl
    subst hl
    refine ⟨run_openAt_again hp hm.holds.grows.toKeeps, fun tag key => ?_⟩
    have hg := run_answer (run_get hm.holds clock key) ⟨path, true⟩
    rw [hv key] at hg
    exact hg

theorem replies_after_put_and_close :
    (Workspace.run ⟨.ofDirectory "w", ⟨0, 0, by decide, by decide, by decide⟩⟩ (FileStore.callAll
      ⟨⟨['c', '.', 'j']⟩, true⟩ [(['a'], .put "\"" [0]), (['a'], .close), (['a'], .get "")])).2.2 =
      [⟨.put "\"" [0], .ok ()⟩, ⟨.close, .ok ()⟩, ⟨.get "", .error .closed⟩] := by
  have hd : draftOf ⟨['c', '.', 'j']⟩ ['a'] = ⟨['c', '.', 'a', '.', 't', 'm', 'p']⟩ := by decide
  have hf : (FileTree.ofDirectory "w").IsFree ⟨['c', '.', 'j']⟩ :=
    FileTree.isFree_name (by decide) (by decide) ⟨by decide, by decide, by decide⟩ rfl rfl
  have ht : (FileTree.ofDirectory "w").IsFree ⟨['c', '.', 'a', '.', 't', 'm', 'p']⟩ :=
    FileTree.isFree_name (by decide) (by decide) ⟨by decide, by decide, by decide⟩ rfl rfl
  have ho (workspace : Workspace) : workspace.run (openAt ⟨['c', '.', 'j']⟩) =
      (workspace, .ok ⟨⟨['c', '.', 'j']⟩, true⟩) := rfl
  refine (replies_eq_memoryStore (ho _) hf fun call hc => ?_).1.trans rfl
  have htag : call.1 = ['a'] := by
    simp only [List.mem_cons, List.not_mem_nil, or_false] at hc
    rcases hc with rfl | rfl | rfl <;> rfl
  rw [htag, hd]
  exact ht

end FileStore

end RequestScript
