import RequestScript.FileStore
import RequestScript.Proofs.Base64
import RequestScript.Proofs.StoreFile
import RequestScript.Proofs.Workspace.Replacement

namespace RequestScript.FileStore

theorem run_openAt_ok {workspace later : Workspace} {path : FilePath} {store : FileStore}
    (h : workspace.run (openAt path) = (later, .ok store)) :
    store = ⟨path, true⟩ ∧ ∀ parent, path.parent? = some parent → parent.text ≠ [] →
      ∃ node, later.tree.node? parent = some node := by
  unfold openAt at h
  cases hp : path.parent? with
  | none =>
    simp only [hp] at h
    cases h
    exact ⟨rfl, fun parent hn => by cases hn⟩
  | some parent =>
    simp only [hp] at h
    by_cases ht : parent.text = []
    · rw [if_pos ht] at h
      cases h
      refine ⟨rfl, fun other ho hn => ?_⟩
      cases ho
      exact absurd ht hn
    rw [if_neg ht, Workspace.run_bind, Workspace.run_isThere] at h
    cases hi : workspace.tree.node? parent with
    | some node =>
      rw [hi] at h
      cases h
      refine ⟨rfl, fun other ho _ => ?_⟩
      cases ho
      exact ⟨node, hi⟩
    | none =>
      rw [hi] at h
      change workspace.run (HostProgram.ensureDirectories parent >>= _) = _ at h
      rw [Workspace.run_bind] at h
      cases he : workspace.run (HostProgram.ensureDirectories parent) with
      | mk between answer =>
        rw [he] at h
        cases answer with
        | error error => cases h
        | ok value =>
          cases h
          refine ⟨rfl, fun other ho _ => ?_⟩
          cases ho
          exact ⟨.directory, Workspace.run_ensureChain_ok ht he⟩

/-- A store can be opened once more, and nothing is made, as long as no node has gone. -/
theorem run_openAt_again {workspace later : Workspace} {path : FilePath}
    (h : ∀ parent, path.parent? = some parent → parent.text ≠ [] →
      ∃ node, workspace.tree.node? parent = some node)
    (hk : workspace.tree.Keeps later.tree) :
    later.run (openAt path) = (later, .ok ⟨path, true⟩) := by
  unfold openAt
  cases hp : path.parent? with
  | none => rfl
  | some parent =>
    by_cases ht : parent.text = []
    · simp only [if_pos ht]
      rfl
    · obtain ⟨node, hn⟩ := h parent hp ht
      simp only [if_neg ht]
      rw [Workspace.run_bind, Workspace.run_isThere, FileTree.node?_of_keeps hk hn]
      rfl

/-- The texts that a store takes from what it is told about its file. -/
def textsOf (path : FilePath) : Except FileError Bytes → Except StoreError (Bindings String)
  | .error error => if error = .notFound then .ok ∅ else .error (.file error)
  | .ok bytes =>
    match decodeText? bytes with
    | none => .error (.file .badText)
    | some text =>
      match StoreFile.read? text with
      | none => .error (.corrupt path.toString)
      | some texts => .ok texts

/-- The texts that a store has in a tree. -/
def textsIn (tree : FileTree) (path : FilePath) : Except StoreError (Bindings String) :=
  textsOf path (tree.read path)

theorem texts_eq (path : FilePath) :
    texts path = .ask (.read path) fun answer => .done (textsOf path answer) := by
  refine congrArg (Program.ask (HostRequest.read path)) (funext fun answer => ?_)
  cases answer with
  | error error =>
    show Program.done _ = Program.done _
    rw [textsOf]
  | ok bytes =>
    unfold textsOf
    dsimp only [Program.bind]
    cases decodeText? bytes with
    | none => rfl
    | some text =>
      dsimp only [pure, Program.bind]
      cases StoreFile.read? text <;> rfl

theorem textsIn_of_content? {tree : FileTree} {path : FilePath} {texts : Bindings String}
    (h : tree.content? path = some (encodeText (StoreFile.print texts))) :
    textsIn tree path = .ok texts := by
  have hr : tree.read path = .ok (encodeText (StoreFile.print texts)) := by
    unfold FileTree.content? at h
    cases hr : tree.read path with
    | error error => rw [hr] at h; cases h
    | ok bytes => rw [hr] at h; cases h; rfl
  rw [textsIn, hr, textsOf, decodeText?_encodeText]
  simp only [StoreFile.read?_print]

/-- A value as it stands in a store file. -/
def valueText (value : Bytes) : String :=
  String.ofList (Base64.standard.encode true value)

theorem valueOf_valueText (key : String) (value : Bytes) :
    valueOf key (valueText value) = .ok value := by
  rw [valueOf, valueText, String.toList_ofList, Base64.decode, Base64.decode?_encode]
  rfl

/-- What stands under the name of a store file when the store has the given values. -/
def Stored (node : Option FileNode) (values : Bindings Bytes) : Prop :=
  (node = none ∧ values = ∅) ∨
    node = some (.file (encodeText (StoreFile.print (values.map valueText))))

/-- The values that a store has in a tree which has grown since the store's path was free. -/
structure Holds (base tree : FileTree) (path : FilePath) (values : Bindings Bytes) : Prop where
  grows : base.Grows tree
  stored : ∃ directory name, base.Leads path directory name ∧
    base.find? (directory ++ [name]) = none ∧ Stored (tree.find? (directory ++ [name])) values

variable {base tree : FileTree} {path : FilePath} {values : Bindings Bytes}

theorem holds_empty (h : base.IsFree path) : Holds base base path ∅ := by
  obtain ⟨directory, name, hl, hv⟩ := h.leads
  exact ⟨FileTree.Grows.refl base, directory, name, hl, hv, Or.inl ⟨hv, rfl⟩⟩

theorem textsIn_of_holds (h : Holds base tree path values) :
    textsIn tree path = .ok (values.map valueText) := by
  obtain ⟨directory, name, hl, _, hs⟩ := h.stored
  have hl' := hl.keeps h.grows.toKeeps
  rcases hs with ⟨hn, rfl⟩ | hf
  · rw [textsIn, hl'.read_vacant hn]
    rfl
  · exact textsIn_of_content? (FileTree.content?_eq_some_iff.mpr ⟨_, hl'.points, hf⟩)

theorem run_answer {α : Type} {workspace after : Workspace} {program : HostProgram α} {value : α}
    (h : workspace.run program = (after, value)) (file : FileStore) :
    workspace.run (program >>= fun answer => pure (file, answer)) = (after, (file, value)) := by
  rw [Workspace.run_bind, h]
  rfl

theorem run_texts (h : Holds base tree path values) (clock : Instant) :
    (⟨tree, clock⟩ : Workspace).run (texts path) = (⟨tree, clock⟩, .ok (values.map valueText)) := by
  rw [texts_eq, ← textsIn_of_holds h]
  rfl

theorem run_save (h : Holds base tree path values) {tag : List Char}
    (hd : base.IsFree (draftOf path tag)) (clock : Instant) (later : Bindings Bytes) :
    ∃ after, (⟨tree, clock⟩ : Workspace).run (save path tag (later.map valueText)) =
      (⟨after, clock⟩, .ok ()) ∧ Holds base after path later := by
  obtain ⟨directory, name, hl, hv, _⟩ := h.stored
  obtain ⟨above, last, hdl, hdv⟩ := hd.leads
  refine ⟨_, ?_, Workspace.grows_moved h.grows hdv hv
    (encodeText (StoreFile.print (later.map valueText))), directory, name, hl, hv, Or.inr ?_⟩
  · unfold save
    rw [Workspace.run_bind, Workspace.run_replaceFile_of_moved clock
      (FileTree.moved_of_leads h.grows hdl hdv hl hv _)]
    rfl
  · rw [Workspace.find?_moved (by simp), if_pos rfl]

theorem run_get (h : Holds base tree path values) (clock : Instant) (key : String) :
    (⟨tree, clock⟩ : Workspace).run (get path key) =
      (⟨tree, clock⟩, .ok (values.find? key)) := by
  unfold get
  rw [Workspace.run_bind, run_texts h]
  simp only [Bindings.find?_map]
  cases values.find? key with
  | none => rfl
  | some value =>
    simp only [Option.map_some, valueOf_valueText]
    rfl

theorem run_put (h : Holds base tree path values) {tag : List Char}
    (hd : base.IsFree (draftOf path tag)) (clock : Instant) (key : String) (value : Bytes) :
    ∃ after, (⟨tree, clock⟩ : Workspace).run (put path tag key value) =
      (⟨after, clock⟩, .ok ()) ∧ Holds base after path (values.insert key value) := by
  obtain ⟨after, hr, ha⟩ := run_save h hd clock (values.insert key value)
  refine ⟨after, ?_, ha⟩
  unfold put
  rw [Workspace.run_bind, run_texts h]
  rw [Bindings.map_insert] at hr
  exact hr

theorem run_delete (h : Holds base tree path values) {tag : List Char}
    (hd : base.IsFree (draftOf path tag)) (clock : Instant) (key : String) :
    ∃ after, (⟨tree, clock⟩ : Workspace).run (delete path tag key) =
      (⟨after, clock⟩, .ok ()) ∧ Holds base after path (values.erase key) := by
  unfold delete
  by_cases hc : (values.map valueText).contains key = true
  · obtain ⟨after, hr, ha⟩ := run_save h hd clock (values.erase key)
    refine ⟨after, ?_, ha⟩
    rw [Workspace.run_bind, run_texts h]
    rw [Bindings.map_erase] at hr
    simp only [if_pos hc]
    exact hr
  · refine ⟨tree, ?_, ?_⟩
    · rw [Workspace.run_bind, run_texts h]
      simp only [if_neg hc]
      rfl
    · have hn : values.find? key = none := by
        simpa [Bindings.contains, Bindings.find?_map] using hc
      rw [Bindings.erase_of_find?_eq_none hn]
      exact h

end RequestScript.FileStore
