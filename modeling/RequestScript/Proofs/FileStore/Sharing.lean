import RequestScript.Proofs.FileStore.Stages

namespace RequestScript

/-- A call under way, with what is left of it. -/
structure FileTask where
  call : FileCall
  left : FileStore.ChangeProgram

/-- A workspace with a file that many open stores have, each of which serves one call at a time.
Only single requests are served by the workspace one at a time. -/
structure SharedFile where
  workspace : Workspace
  tasks : Nat → Option FileTask
  log : List FileEvent
  begun : List FileCall

namespace SharedFile

/-- What can happen next: a store without a call under way begins one, or the next request of a
store is answered. -/
inductive Turn where
  | begins (call : FileCall)
  | asks (store : Nat)

def ofWorkspace (workspace : Workspace) : SharedFile :=
  ⟨workspace, fun _ => none, [], []⟩

/-- The call that a store has under way, if it has one. -/
def pending (shared : SharedFile) (store : Nat) : List FileCall :=
  match shared.tasks store with
  | some ⟨call, .ask _ _⟩ => [call]
  | _ => []

def isIdle (shared : SharedFile) (store : Nat) : Bool :=
  (shared.pending store).isEmpty

def begin (path : FilePath) (shared : SharedFile) (call : FileCall) : SharedFile :=
  { shared with
    tasks := Function.update shared.tasks call.store
      (some ⟨call, call.change.on ⟨path, true⟩ call.tag⟩)
    begun := shared.begun ++ [call] }

/-- A call has asked for something, which leaves `workspace`. -/
def proceed (shared : SharedFile) (call : FileCall) (request : HostRequest)
    (workspace : Workspace) (left : FileStore.ChangeProgram) : SharedFile :=
  { shared with
    workspace
    tasks := Function.update shared.tasks call.store (some ⟨call, left⟩)
    log := shared.log ++ [⟨call, request, left.value?.map Prod.snd⟩] }

def take (path : FilePath) (shared : SharedFile) : Turn → SharedFile
  | .begins call => if shared.isIdle call.store then shared.begin path call else shared
  | .asks store =>
    match shared.tasks store with
    | some ⟨call, .ask request next⟩ =>
      let served := shared.workspace.respond request
      shared.proceed call request served.1 (next served.2)
    | _ => shared

def run (path : FilePath) (shared : SharedFile) (turns : List Turn) : SharedFile :=
  turns.foldl (take path) shared

open FileStore FileEvent

/-- Where a call under way stands, in a tree with its draft at some place. -/
structure Stands (base : FileTree) (path : FilePath) (tree : FileTree) (seen : Bindings String)
    (task : FileTask) (location : Location) (stage : Stage) : Prop where
  place : DraftPlace base path task.call.tag location
  left : task.left = stage.program path task.call seen
  draft : tree.find? location = (stage.draft? task.call seen).map .file

/-- At most a draft and the file of a store differ in two trees. -/
structure Touches (path : FilePath) (location destination : Location) (tree later : FileTree) :
    Prop where
  directories : tree.SameDirectories later
  located : later.locateFile path .notADirectory = .ok destination
  elsewhere : ∀ other, other ≠ [] → other ≠ location → other ≠ destination →
    later.find? other = tree.find? other

variable {base tree : FileTree} {path : FilePath} {location destination : Location}
  {held : Bindings String} {call : FileCall} {left : ChangeProgram} {stage : Stage}
  {request : HostRequest}

theorem touches_refl (hl : tree.locateFile path .notADirectory = .ok destination) :
    Touches path location destination tree tree :=
  ⟨.refl tree, hl, fun _ _ _ _ => rfl⟩

theorem touches_put {tag : List Char} (hp : DraftPlace base path tag location)
    (hd : base.locateFile path .notADirectory = .ok destination)
    (hs : base.SameDirectories tree) (hl : tree.locateFile path .notADirectory = .ok destination)
    (content : Bytes) :
    Touches path location destination tree (tree.put location (.file content)) := by
  have hdir := FileTree.SameDirectories.put hp.ne_nil (hp.not_directory hs) content
  refine ⟨hdir, hdir.locateFile hl (Or.inl ?_), fun other hr hne _ => ?_⟩
  · rw [FileTree.find?_put (FileTree.locateFile_ok hl).2.1, if_neg (hp.ne_destination hd)]
  · rw [FileTree.find?_put hr, if_neg hne]

/-- A draft is no part of the file that it is made for. -/
theorem textsIn_put {tag : List Char} (hp : DraftPlace base path tag location)
    (hd : base.locateFile path .notADirectory = .ok destination)
    (hs : base.SameDirectories tree) (hl : tree.locateFile path .notADirectory = .ok destination)
    (content : Bytes) : textsIn (tree.put location (.file content)) path = textsIn tree path := by
  refine textsIn_congr hl (touches_put hp hd hs hl content).located ?_
  rw [FileTree.find?_put (FileTree.locateFile_ok hl).2.1, if_neg (hp.ne_destination hd)]

theorem touches_move {tag : List Char} (hp : DraftPlace base path tag location)
    (hs : base.SameDirectories tree) (hl : tree.locateFile path .notADirectory = .ok destination)
    (content : Bytes) :
    Touches path location destination tree
      ((tree.erase location).put destination (.file content)) := by
  have hr := (FileTree.locateFile_ok hl).2.1
  have herase := FileTree.SameDirectories.erase hp.ne_nil (hp.not_directory hs)
  have hnd := mt (herase.directory destination).mpr (FileTree.not_directory_of_locateFile hl)
  have hdir := herase.trans (.put hr hnd content)
  refine ⟨hdir, hdir.locateFile hl (Or.inr ⟨content, ?_⟩), fun other ho hne hne' => ?_⟩
  · rw [FileTree.find?_put hr, if_pos rfl]
  · rw [FileTree.find?_put ho, if_neg hne', FileTree.find?_erase ho, if_neg hne]

/-- What a request of a call does to the tree, and how the call goes on. -/
theorem Stands.respond {workspace : Workspace} {shown : Shown}
    (h : Stands base path workspace.tree (shown.seen call.store) ⟨call, left⟩ location stage)
    (hd : base.locateFile path .notADirectory = .ok destination)
    (hs : base.SameDirectories workspace.tree)
    (hl : workspace.tree.locateFile path .notADirectory = .ok destination)
    (ht : textsIn workspace.tree path = .ok shown.texts)
    (hr : stage.request? path call (shown.seen call.store) = some request) :
    ∃ rest later answer, left = .ask request rest ∧
      workspace.respond request = (later, answer) ∧ Stage.Met path shown.texts request answer ∧
      Touches path location destination workspace.tree later.tree ∧
      textsIn later.tree path = .ok (effect shown ⟨call, request, none⟩).texts ∧
      Stands base path later.tree ((effect shown ⟨call, request, none⟩).seen call.store)
        ⟨call, rest answer⟩ location (stage.next call shown.texts) := by
  obtain ⟨hp, hleft, hdraft⟩ := h
  have hne := hp.ne_destination hd
  have hroot := hp.ne_nil
  cases stage with
  | starts =>
    cases hr
    obtain ⟨rest, hask, hn⟩ := Stage.on_eq_ask path call
    have hseen : (effect shown ⟨call, .read path, none⟩).seen call.store = shown.texts :=
      Function.update_self _ _ _
    refine ⟨rest, workspace, _, hleft.trans hask, rfl, ht, touches_refl hl, ht, hp, ?_, ?_⟩
    · show rest (workspace.tree.read path) = _
      rw [hn _ _ ht, hseen]
    · have hdraft : workspace.tree.find? location = none := hdraft
      rw [hdraft, Stage.next]
      split <;> rfl
  | creates =>
    cases hr
    have ha : workspace.respond (.create (draftOf path call.tag)) =
        (⟨workspace.tree.put location (.file []), workspace.clock⟩, .ok ()) :=
      congrArg workspace.change (hp.create hs)
    refine ⟨_, _, _, hleft, ha, rfl, touches_put hp hd hs hl _,
      (textsIn_put hp hd hs hl _).trans ht, hp, rfl, ?_⟩
    rw [FileTree.find?_put hroot, if_pos rfl]
    rfl
  | writes =>
    cases hr
    have ha : workspace.respond (.write (draftOf path call.tag) _) =
        (⟨workspace.tree.put location (.file (Stage.image call (shown.seen call.store))),
          workspace.clock⟩, .ok ()) :=
      congrArg workspace.change (hp.write hs hdraft _)
    refine ⟨_, _, _, hleft, ha, rfl, touches_put hp hd hs hl _,
      (textsIn_put hp hd hs hl _).trans ht, hp, rfl, ?_⟩
    rw [FileTree.find?_put hroot, if_pos rfl]
    rfl
  | flushes =>
    cases hr
    exact ⟨_, workspace, _, hleft, rfl, rfl, touches_refl hl, ht, hp, rfl, hdraft⟩
  | renames =>
    cases hr
    have ha : workspace.respond (.rename (draftOf path call.tag) path) =
        (⟨(workspace.tree.erase location).put destination
          (.file (Stage.image call (shown.seen call.store))), workspace.clock⟩, .ok ()) :=
      congrArg workspace.change (hp.rename hs hdraft hl)
    have htouch := touches_move hp hs hl (Stage.image call (shown.seen call.store))
    refine ⟨_, _, _, hleft, ha, rfl, htouch, textsIn_of_find? htouch.located ?_, hp, rfl, ?_⟩
    · rw [FileTree.find?_put (FileTree.locateFile_ok hl).2.1, if_pos rfl]
      rfl
    · rw [FileTree.find?_put hroot, if_neg hne.symm, FileTree.find?_erase hroot, if_pos rfl]
      rfl
  | ends => cases hr

/-- No two stores have calls with one tag under way. -/
def TagsApart (tasks : Nat → Option FileTask) : Prop :=
  ∀ store other task task', tasks store = some task → tasks other = some task' →
    store ≠ other → task.call.tag ≠ task'.call.tag

/-- The calls under way are as far as the events so far say, and the file holds what they say. -/
structure Sound (base : FileTree) (path : FilePath) (destination : Location)
    (held : Bindings String) (shared : SharedFile) : Prop where
  placed : base.locateFile path .notADirectory = .ok destination
  directories : base.SameDirectories shared.workspace.tree
  located : shared.workspace.tree.locateFile path .notADirectory = .ok destination
  shows : textsIn shared.workspace.tree path = .ok (shownAfter held shared.log).texts
  fresh : ∀ tag location, DraftPlace base path tag location →
    tag ∉ shared.begun.map FileCall.tag → shared.workspace.tree.find? location = none
  apart : TagsApart shared.tasks
  named : ∀ store task, shared.tasks store = some task →
    task.call.store = store ∧ task.call ∈ shared.begun
  underway : ∀ store task, shared.tasks store = some task → ∃ location stage,
    Stands base path shared.workspace.tree ((shownAfter held shared.log).seen store) task
      location stage
  consistent : Throughout (Follows held) shared.log
  counted : ∀ store, shared.begun.filter (fun call => call.store = store) =
    (endedCalls shared.log).filter (fun call => call.store = store) ++ shared.pending store

theorem sound_ofWorkspace {workspace : Workspace}
    (hd : workspace.tree.locateFile path .notADirectory = .ok destination)
    (hr : textsIn workspace.tree path = .ok held) :
    Sound workspace.tree path destination held (ofWorkspace workspace) where
  placed := hd
  directories := .refl workspace.tree
  located := hd
  shows := hr
  fresh _ _ hp _ := hp.vacant
  apart _ _ _ _ h := by cases h
  named _ _ h := by cases h
  underway _ _ h := by cases h
  consistent := throughout_nil _
  counted _ := rfl

variable {shared : SharedFile} {store : Nat}

theorem tasks_update {task other : FileTask} {asked : Nat}
    (h : Function.update shared.tasks store (some task) asked = some other) :
    asked = store ∧ other = task ∨ asked ≠ store ∧ shared.tasks asked = some other := by
  by_cases ha : asked = store
  · subst ha
    rw [Function.update_self] at h
    exact Or.inl ⟨rfl, (Option.some.inj h).symm⟩
  · rw [Function.update_of_ne ha] at h
    exact Or.inr ⟨ha, h⟩

theorem TagsApart.update {task : FileTask} (h : TagsApart shared.tasks)
    (hn : ∀ other task', shared.tasks other = some task' → other ≠ store →
      task'.call.tag ≠ task.call.tag) :
    TagsApart (Function.update shared.tasks store (some task)) := by
  intro first second task' task'' ht ht' hne
  rcases tasks_update ht with ⟨rfl, rfl⟩ | ⟨ho, hold⟩
  · rcases tasks_update ht' with ⟨rfl, -⟩ | ⟨ho', hold'⟩
    · exact absurd rfl hne
    · exact (hn second task'' hold' ho').symm
  · rcases tasks_update ht' with ⟨rfl, rfl⟩ | ⟨-, hold'⟩
    · exact hn first task' hold ho
    · exact h first second task' task'' hold hold' hne

/-- A store is idle, and a turn of it changes nothing, or its call asks for something. -/
theorem isIdle_or_asks (shared : SharedFile) (store : Nat) :
    (shared.isIdle store = true ∧ ∀ path, shared.take path (.asks store) = shared) ∨
      ∃ call request rest, shared.tasks store = some ⟨call, .ask request rest⟩ := by
  unfold isIdle pending take
  cases ht : shared.tasks store with
  | none => exact Or.inl ⟨rfl, fun _ => by simp only [ht]⟩
  | some task =>
    obtain ⟨call, left⟩ := task
    cases left with
    | done value => exact Or.inl ⟨rfl, fun _ => by simp only [ht]⟩
    | ask request rest => exact Or.inr ⟨call, request, rest, rfl⟩

theorem take_begins (h : shared.isIdle call.store = true) (path : FilePath) :
    shared.take path (.begins call) = shared.begin path call := by
  rw [take, if_pos h]

theorem begun_asks (shared : SharedFile) (path : FilePath) (store : Nat) :
    (shared.take path (.asks store)).begun = shared.begun := by
  rcases shared.isIdle_or_asks store with ⟨-, hkept⟩ | ⟨call, request, rest, ht⟩
  · rw [hkept path]
  · simp only [take, ht]
    rfl

theorem run_append (shared : SharedFile) (path : FilePath) (turns more : List Turn) :
    shared.run path (turns ++ more) = (shared.run path turns).run path more :=
  List.foldl_append

theorem run_replicate {turn : Turn} (h : shared.take path turn = shared) (n : Nat) :
    shared.run path (List.replicate n turn) = shared := by
  induction n with
  | zero => rfl
  | succ n ih =>
    show (shared.take path turn).run path (List.replicate n turn) = shared
    rw [h, ih]

namespace Sound

theorem begin (h : Sound base path destination held shared)
    (hi : shared.isIdle call.store = true) (hslash : '/' ∉ call.tag)
    (hfree : base.IsFree (draftOf path call.tag))
    (hnew : call.tag ∉ shared.begun.map FileCall.tag) :
    Sound base path destination held (shared.begin path call) := by
  have htag {store : Nat} {task : FileTask} (ht : shared.tasks store = some task) :
      task.call.tag ≠ call.tag :=
    fun he => hnew (he ▸ List.mem_map_of_mem (h.named store task ht).2)
  refine { h with fresh := ?_, apart := ?_, named := ?_, underway := ?_, counted := ?_ }
  · intro tag location hp hn
    refine h.fresh tag location hp fun hm => hn ?_
    rw [SharedFile.begin, List.map_append]
    exact List.mem_append_left _ hm
  · exact h.apart.update fun other task ht _ => htag ht
  · intro store task ht
    rcases tasks_update ht with ⟨rfl, rfl⟩ | ⟨-, ht⟩
    · exact ⟨rfl, List.mem_append_right _ List.mem_cons_self⟩
    · obtain ⟨hs, hm⟩ := h.named store task ht
      exact ⟨hs, List.mem_append_left _ hm⟩
  · intro store task ht
    rcases tasks_update ht with ⟨rfl, rfl⟩ | ⟨-, ht⟩
    · obtain ⟨location, hp⟩ := exists_draftPlace hslash hfree
      exact ⟨location, .starts, hp, rfl, h.fresh call.tag location hp hnew⟩
    · exact h.underway store task ht
  · intro store
    have hc := h.counted store
    by_cases hs : call.store = store
    · subst hs
      have hpending : shared.pending call.store = [] := List.isEmpty_iff.mp hi
      obtain ⟨rest, hask, -⟩ := Stage.on_eq_ask path call
      have hbegun : (shared.begin path call).pending call.store = [call] := by
        simp only [pending, SharedFile.begin, Function.update_self]
        rw [show call.change.on ⟨path, true⟩ call.tag = _ from hask]
      rw [hpending, List.append_nil] at hc
      rw [hbegun]
      simp [SharedFile.begin, hc]
    · have hbegun : (shared.begin path call).pending store = shared.pending store := by
        simp only [pending, SharedFile.begin, Function.update_of_ne (Ne.symm hs)]
      rw [hbegun]
      simp [SharedFile.begin, hs, hc]

/-- A call takes a step that touches nothing but its draft and the file. -/
theorem proceed {workspace : Workspace} {rest : request.Answer → ChangeProgram}
    (h : Sound base path destination held shared)
    (htask : shared.tasks call.store = some ⟨call, .ask request rest⟩)
    (htouch : Touches path location destination shared.workspace.tree workspace.tree)
    (hshows : textsIn workspace.tree path =
      .ok (effect (shownAfter held shared.log) ⟨call, request, none⟩).texts)
    (hstands : Stands base path workspace.tree
      ((effect (shownAfter held shared.log) ⟨call, request, none⟩).seen call.store)
      ⟨call, left⟩ location stage)
    (hfollows : Follows held shared.log ⟨call, request, left.value?.map Prod.snd⟩) :
    Sound base path destination held (shared.proceed call request workspace left) := by
  obtain ⟨-, hbegun⟩ := h.named _ _ htask
  have hseen : shownAfter held (shared.log ++ [⟨call, request, left.value?.map Prod.snd⟩]) =
      effect (shownAfter held shared.log) ⟨call, request, none⟩ := shownAfter_snoc ..
  have htag {store : Nat} {task : FileTask} (ht : shared.tasks store = some task)
      (hne : store ≠ call.store) : task.call.tag ≠ call.tag :=
    h.apart store call.store task _ ht htask hne
  -- the drafts of other calls are elsewhere
  have hother {tag : List Char} {other : Location} (hp : DraftPlace base path tag other)
      (hne : tag ≠ call.tag) : workspace.tree.find? other = shared.workspace.tree.find? other :=
    htouch.elsewhere other hp.ne_nil (hp.ne hstands.place h.placed hne)
      (hp.ne_destination h.placed).symm
  refine ⟨h.placed, h.directories.trans htouch.directories, htouch.located, ?_, ?_, ?_, ?_, ?_,
    throughout_snoc.mpr ⟨h.consistent, hfollows⟩, ?_⟩
  · rw [SharedFile.proceed, hseen]
    exact hshows
  · intro tag other hp hn
    have hne : tag ≠ call.tag := fun he => hn (he ▸ List.mem_map_of_mem hbegun)
    exact (hother hp hne).trans (h.fresh tag other hp hn)
  · exact h.apart.update fun other task ht hne => htag ht hne
  · intro store task ht
    rcases tasks_update ht with ⟨rfl, rfl⟩ | ⟨-, ht⟩
    · exact ⟨rfl, hbegun⟩
    · exact h.named store task ht
  · intro store task ht
    rw [SharedFile.proceed, hseen]
    rcases tasks_update ht with ⟨rfl, rfl⟩ | ⟨hne, ht⟩
    · exact ⟨location, stage, hstands⟩
    · obtain ⟨other, at', hp, hl, hd⟩ := h.underway store task ht
      have hs : (effect (shownAfter held shared.log) ⟨call, request, none⟩).seen store =
          (shownAfter held shared.log).seen store :=
        seen_effect_of_not_looks fun hk => hne hk.1.symm
      rw [hs]
      exact ⟨other, at', hp, hl, (hother hp (htag ht hne)).trans hd⟩
  · intro store
    have hc := h.counted store
    show shared.begun.filter _ = (endedCalls (shared.log ++ [_])).filter _ ++ _
    rw [hc, endedCalls_snoc, List.filter_append, List.append_assoc]
    by_cases hs : call.store = store
    · subst hs
      simp only [pending, SharedFile.proceed, htask, Function.update_self]
      cases left <;> simp [Program.value?]
    · simp only [pending, SharedFile.proceed, Function.update_of_ne (Ne.symm hs)]
      cases left <;> simp [Program.value?, hs]

/-- Whatever a call asks for is met. -/
theorem step {rest : request.Answer → ChangeProgram} (h : Sound base path destination held shared)
    (htask : shared.tasks call.store = some ⟨call, .ask request rest⟩) :
    ∃ workspace answer, Stage.Met path (shownAfter held shared.log).texts request answer ∧
      shared.take path (.asks call.store) =
        shared.proceed call request workspace (rest answer) ∧
      Sound base path destination held
        (shared.proceed call request workspace (rest answer)) := by
  obtain ⟨location, stage, hstands⟩ := h.underway _ _ htask
  have hr := Stage.request?_of_program hstands.left.symm
  obtain ⟨rest, workspace, answer, hask, hrespond, hmet, htouch, hshows, hlater⟩ :=
    hstands.respond h.placed h.directories h.located h.shows hr
  cases hask
  refine ⟨workspace, answer, hmet, ?_, h.proceed htask htouch hshows hlater ?_⟩
  · simp only [take, htask, hrespond]
  · rw [show rest answer = _ from hlater.left]
    exact Stage.follows hr

theorem asks (h : Sound base path destination held shared) (store : Nat) :
    Sound base path destination held (shared.take path (.asks store)) := by
  rcases shared.isIdle_or_asks store with ⟨-, hkept⟩ | ⟨call, request, rest, ht⟩
  · rwa [hkept path]
  · obtain ⟨rfl, -⟩ := h.named store _ ht
    obtain ⟨workspace, answer, -, ha, hs⟩ := h.step ht
    exact ha ▸ hs

/-- A store is done with its call when as many requests of the call have been answered as it has
left. -/
theorem isIdle_run {n : Nat} (h : Sound base path destination held shared)
    (he : ∀ task, shared.tasks store = some task → Stage.EndsWithin path n task.left) :
    (shared.run path (List.replicate n (.asks store))).isIdle store = true := by
  induction n generalizing shared with
  | zero =>
    rcases shared.isIdle_or_asks store with ⟨hi, -⟩ | ⟨call, request, rest, ht⟩
    · exact hi
    · exact (he _ ht).elim
  | succ n ih =>
    rcases shared.isIdle_or_asks store with ⟨hi, hkept⟩ | ⟨call, request, rest, ht⟩
    · rwa [run_replicate (hkept path)]
    obtain ⟨rfl, -⟩ := h.named store _ ht
    obtain ⟨workspace, answer, hmet, ha, hs⟩ := h.step ht
    show ((shared.take path (.asks call.store)).run path _).isIdle call.store = true
    rw [ha]
    refine ih hs fun task hn => ?_
    rcases tasks_update hn with ⟨-, rfl⟩ | ⟨hne, -⟩
    · exact he _ ht _ answer hmet
    · exact absurd rfl hne

theorem isIdle_run_five (h : Sound base path destination held shared) (store : Nat) :
    (shared.run path (List.replicate 5 (.asks store))).isIdle store = true := by
  refine h.isIdle_run fun task ht => ?_
  obtain ⟨location, stage, hstands⟩ := h.underway store task ht
  rw [hstands.left]
  exact Stage.endsWithin_program path _ _ stage

theorem mem_begun (h : Sound base path destination held shared)
    (hm : call ∈ endedCalls shared.log) : call ∈ shared.begun := by
  have hf : call ∈ shared.begun.filter fun other => other.store = call.store := by
    rw [h.counted call.store]
    exact List.mem_append_left _ (List.mem_filter.mpr ⟨hm, by simp⟩)
  exact (List.mem_filter.mp hf).1

theorem reply_eq_ok {event : FileEvent} {reply : Except StoreError Unit}
    (h : Sound base path destination held shared) (hm : event ∈ shared.log)
    (he : event.reply = some reply) : reply = .ok () := by
  obtain ⟨before, after, hs⟩ := List.append_of_mem hm
  rcases h.consistent before event after hs with ⟨hr, -⟩ | ⟨hr, -⟩
  · rw [he] at hr
    cases hr
  · rw [he] at hr
    exact Option.some.inj hr

end Sound

/-- Every call has a draft of its own, where there is nothing yet. -/
structure DraftsApart (tree : FileTree) (path : FilePath) (calls : List FileCall) : Prop where
  free : ∀ call ∈ calls, '/' ∉ call.tag ∧ tree.IsFree (draftOf path call.tag)
  nodup : (calls.map FileCall.tag).Nodup

theorem DraftsApart.of_snoc {calls : List FileCall} (h : DraftsApart tree path (calls ++ [call])) :
    DraftsApart tree path calls ∧ call.tag ∉ calls.map FileCall.tag := by
  obtain ⟨hfree, hn⟩ := h
  rw [List.map_append, List.nodup_append] at hn
  exact ⟨⟨fun other ho => hfree other (List.mem_append_left _ ho), hn.1⟩,
    fun hm => hn.2.2 _ hm _ (by simp) rfl⟩

/-- However the requests of the calls are mixed, the file holds what the events say. -/
theorem sound_run {workspace : Workspace} (turns : List Turn)
    (hd : workspace.tree.locateFile path .notADirectory = .ok destination)
    (hr : textsIn workspace.tree path = .ok held)
    (hapart : DraftsApart workspace.tree path ((ofWorkspace workspace).run path turns).begun) :
    Sound workspace.tree path destination held ((ofWorkspace workspace).run path turns) := by
  induction turns using List.reverseRecOn with
  | nil => exact sound_ofWorkspace hd hr
  | append_singleton turns turn ih =>
    rw [run_append] at hapart ⊢
    change DraftsApart _ path (take path _ turn).begun at hapart
    change Sound _ path destination held (take path _ turn)
    cases turn with
    | asks store =>
      rw [begun_asks] at hapart
      exact (ih hapart).asks store
    | begins call =>
      by_cases hi : ((ofWorkspace workspace).run path turns).isIdle call.store = true
      · rw [take_begins hi] at hapart ⊢
        obtain ⟨hslash, hplace⟩ := hapart.free call (List.mem_append_right _ List.mem_cons_self)
        obtain ⟨hbefore, hnew⟩ := hapart.of_snoc
        exact (ih hbefore).begin hi hslash hplace hnew
      · rw [take, if_neg hi] at hapart ⊢
        exact ih hapart

end SharedFile

end RequestScript
