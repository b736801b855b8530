import RequestScript.Proofs.FileStore
import RequestScript.Proofs.Workspace.Replacement

namespace RequestScript

namespace FileStore

/-- The value under a key, as the file of a store gives it. -/
def valueIn (key : String) (held : Bindings String) : Except StoreError (Option Bytes) :=
  match held.find? key with
  | none => .ok none
  | some text => (valueOf key text).map some

theorem call_get_eq (path : FilePath) (tag : List Char) (key : String) :
    call ⟨path, true⟩ tag (.get key) =
      .ask (.read path) fun answer =>
        .done (⟨path, true⟩, (textsOf path answer).bind (valueIn key)) := by
  have hg : get path key =
      .ask (.read path) fun answer => .done ((textsOf path answer).bind (valueIn key)) := by
    unfold get
    rw [texts_eq]
    refine congrArg (Program.ask (HostRequest.read path)) (funext fun answer => ?_)
    show Program.bind (Program.done (textsOf path answer)) _ = _
    cases textsOf path answer with
    | error error => rfl
    | ok held =>
      show (match held.find? key with | none => _ | some text => _) = Program.done (valueIn key held)
      unfold valueIn
      cases held.find? key <;> rfl
  show (get path key).bind _ = _
  rw [hg]
  rfl

end FileStore

/-- A call that changes what a store has under a key. -/
inductive StoreChange where
  | put (key : String) (value : Bytes)
  | delete (key : String)

namespace StoreChange

def key : StoreChange → String
  | put key _ => key
  | delete key => key

/-- What a change leaves under its key. -/
def value? : StoreChange → Option Bytes
  | put _ value => some value
  | delete _ => none

def apply (held : Bindings String) : StoreChange → Bindings String
  | put key value => held.insert key (FileStore.valueText value)
  | delete key => held.erase key

/-- Whether a change leaves things as they are. -/
def isIdle (held : Bindings String) : StoreChange → Bool
  | put _ _ => false
  | delete key => !held.contains key

/-- The call of a store in a file. -/
def on (store : FileStore) (tag : List Char) :
    StoreChange → HostProgram (FileStore × Except StoreError Unit)
  | put key value => store.call tag (.put key value)
  | delete key => store.call tag (.delete key)

theorem find?_apply (change : StoreChange) (held : Bindings String) (other : String) :
    (change.apply held).find? other =
      if other = change.key then change.value?.map FileStore.valueText else held.find? other := by
  cases change with
  | put key value => exact Bindings.find?_insert held key other _
  | delete key => exact Bindings.find?_erase held key other

theorem apply_of_isIdle {change : StoreChange} {held : Bindings String}
    (h : change.isIdle held = true) : change.apply held = held := by
  cases change with
  | put key value => cases h
  | delete key =>
    have hn : held.find? key = none := by simpa [isIdle, Bindings.contains] using h
    exact Bindings.erase_of_find?_eq_none hn

/-- How a change goes on when the texts of its store have been read. -/
def carryOut (path : FilePath) (tag : List Char) (change : StoreChange) :
    Except StoreError (Bindings String) → HostProgram (Except StoreError Unit)
  | .error error => .done (.error error)
  | .ok held =>
    if change.isIdle held then .done (.ok ())
    else
      (HostProgram.replaceFile path (FileStore.draftOf path tag)
        (encodeText (StoreFile.print (change.apply held)))).bind fun written =>
          .done (written.mapError .file)

theorem on_eq (path : FilePath) (tag : List Char) (change : StoreChange) :
    change.on ⟨path, true⟩ tag =
      .ask (.read path) fun answer =>
        (change.carryOut path tag (FileStore.textsOf path answer)).bind fun result =>
          .done (⟨path, true⟩, result) := by
  cases change with
  | put key value =>
    show (FileStore.put path tag key value).bind _ = _
    unfold FileStore.put
    rw [FileStore.texts_eq]
    refine congrArg (Program.ask (HostRequest.read path)) (funext fun answer => ?_)
    show (Program.bind (Program.done (FileStore.textsOf path answer)) _).bind _ = _
    cases FileStore.textsOf path answer <;> rfl
  | delete key =>
    show (FileStore.delete path tag key).bind _ = _
    unfold FileStore.delete
    rw [FileStore.texts_eq]
    refine congrArg (Program.ask (HostRequest.read path)) (funext fun answer => ?_)
    show (Program.bind (Program.done (FileStore.textsOf path answer)) _).bind _ = _
    cases FileStore.textsOf path answer with
    | error error => rfl
    | ok held =>
      have hi : (delete key).isIdle held = !held.contains key := rfl
      show (if held.contains key = true then _ else _ : HostProgram _).bind _ = _
      rw [carryOut, hi]
      cases held.contains key <;> rfl

theorem on_closed {store : FileStore} (h : store.isOpen = false) (tag : List Char)
    (change : StoreChange) : change.on store tag = .done (store, .error .closed) := by
  cases change <;> simp only [on, FileStore.call, h] <;> rfl

theorem run_on (workspace : Workspace) (path : FilePath) (tag : List Char)
    (change : StoreChange) :
    workspace.run (change.on ⟨path, true⟩ tag) =
      ((workspace.run (change.carryOut path tag (FileStore.textsIn workspace.tree path))).1,
        ⟨path, true⟩,
        (workspace.run (change.carryOut path tag (FileStore.textsIn workspace.tree path))).2) := by
  rw [on_eq]
  show workspace.run (change.carryOut path tag (FileStore.textsIn workspace.tree path) >>= _) = _
  rw [Workspace.run_bind]
  rfl

/-- A change that is not idle moves its draft to the place of the file. -/
theorem moved_of_run_carryOut {workspace later : Workspace} {path : FilePath} {tag : List Char}
    {change : StoreChange} {held : Bindings String} (hi : change.isIdle held = false)
    (h : workspace.run (change.carryOut path tag (.ok held)) = (later, .ok ())) :
    workspace.tree.Moved path (FileStore.draftOf path tag)
      (encodeText (StoreFile.print (change.apply held))) later.tree := by
  unfold carryOut at h
  simp only [hi, Bool.false_eq_true, if_false] at h
  change workspace.run (HostProgram.replaceFile path (FileStore.draftOf path tag)
    (encodeText (StoreFile.print (change.apply held))) >>= _) = _ at h
  rw [Workspace.run_bind] at h
  cases hw : workspace.run (HostProgram.replaceFile path (FileStore.draftOf path tag)
    (encodeText (StoreFile.print (change.apply held)))) with
  | mk after written =>
    rw [hw] at h
    cases written with
    | error error => cases h
    | ok value =>
      cases h
      exact Workspace.moved_of_run_replaceFile hw

/-- A change that is not idle leaves the whole file as it is printed. -/
theorem content?_of_run_carryOut {workspace later : Workspace} {path : FilePath} {tag : List Char}
    {change : StoreChange} {held : Bindings String} (hi : change.isIdle held = false)
    (h : workspace.run (change.carryOut path tag (.ok held)) = (later, .ok ())) :
    later.tree.content? path = some (encodeText (StoreFile.print (change.apply held))) :=
  (moved_of_run_carryOut hi h).content?

theorem carryOut_of_isIdle {change : StoreChange} {held : Bindings String}
    (hi : change.isIdle held = true) (path : FilePath) (tag : List Char) :
    change.carryOut path tag (.ok held) = .done (.ok ()) := by
  unfold carryOut
  exact if_pos hi

theorem textsIn_of_run_carryOut {workspace later : Workspace} {path : FilePath} {tag : List Char}
    {change : StoreChange} {held : Bindings String}
    (hr : FileStore.textsIn workspace.tree path = .ok held)
    (h : workspace.run (change.carryOut path tag (.ok held)) = (later, .ok ())) :
    FileStore.textsIn later.tree path = .ok (change.apply held) := by
  cases hi : change.isIdle held with
  | true =>
    rw [carryOut_of_isIdle hi] at h
    cases h
    rw [apply_of_isIdle hi, hr]
  | false => exact FileStore.textsIn_of_content? (content?_of_run_carryOut hi h)

theorem exists_run_carryOut {workspace : Workspace} {path : FilePath} {tag : List Char}
    {location destination : Location}
    (hl : workspace.tree.locateFile (FileStore.draftOf path tag) .isADirectory = .ok location)
    (hd : workspace.tree.locateFile path .notADirectory = .ok destination)
    (change : StoreChange) (held : Bindings String) :
    ∃ later, workspace.run (change.carryOut path tag (.ok held)) = (later, .ok ()) := by
  by_cases hi : change.isIdle held = true
  · rw [carryOut_of_isIdle hi]
    exact ⟨workspace, rfl⟩
  · unfold carryOut
    obtain ⟨tree, hm⟩ := FileTree.exists_moved hl hd
      (encodeText (StoreFile.print (change.apply held)))
    have hw := Workspace.run_replaceFile_of_moved workspace.clock hm
    refine ⟨⟨tree, workspace.clock⟩, ?_⟩
    simp only [if_neg hi]
    change workspace.run (HostProgram.replaceFile path (FileStore.draftOf path tag)
      (encodeText (StoreFile.print (change.apply held))) >>= _) = _
    rw [Workspace.run_bind, hw]
    rfl

theorem run_carryOut_of_run_on {workspace later : Workspace} {path : FilePath} {tag : List Char}
    {change : StoreChange} {held : Bindings String} {after : FileStore}
    (hr : FileStore.textsIn workspace.tree path = .ok held)
    (h : workspace.run (change.on ⟨path, true⟩ tag) = (later, after, .ok ())) :
    after = ⟨path, true⟩ ∧ workspace.run (change.carryOut path tag (.ok held)) = (later, .ok ()) := by
  rw [run_on, hr] at h
  cases hc : workspace.run (change.carryOut path tag (.ok held)) with
  | mk between answer =>
    rw [hc] at h
    cases h
    exact ⟨rfl, rfl⟩

theorem textsIn_of_run_on {workspace later : Workspace} {path : FilePath} {tag : List Char}
    {change : StoreChange} {held : Bindings String} {after : FileStore}
    (hr : FileStore.textsIn workspace.tree path = .ok held)
    (h : workspace.run (change.on ⟨path, true⟩ tag) = (later, after, .ok ())) :
    after = ⟨path, true⟩ ∧ FileStore.textsIn later.tree path = .ok (change.apply held) := by
  obtain ⟨rfl, hc⟩ := run_carryOut_of_run_on hr h
  exact ⟨rfl, textsIn_of_run_carryOut hr hc⟩

/-- A change succeeds if files can be put where the draft and the store's file have their places. -/
theorem exists_run_on {workspace : Workspace} {path : FilePath} {tag : List Char}
    {location destination : Location} {held : Bindings String}
    (hr : FileStore.textsIn workspace.tree path = .ok held)
    (hl : workspace.tree.locateFile (FileStore.draftOf path tag) .isADirectory = .ok location)
    (hd : workspace.tree.locateFile path .notADirectory = .ok destination)
    (change : StoreChange) :
    ∃ later, workspace.run (change.on ⟨path, true⟩ tag) = (later, ⟨path, true⟩, .ok ()) := by
  obtain ⟨later, hc⟩ := exists_run_carryOut hl hd change held
  exact ⟨later, by rw [run_on, hr, hc]⟩

end StoreChange

end RequestScript
