import RequestScript.Proofs.FileStore.Image

namespace RequestScript

namespace FileTree

variable {tree later : FileTree} {path : FilePath} {location : Location} {slash slash' : FileError}

/-- Where a file can be put it still can be while the directories stay the same, unless something
else than a file has come there. -/
theorem SameDirectories.locateFile (h : tree.SameDirectories later)
    (hl : tree.locateFile path slash = .ok location)
    (hf : later.find? location = tree.find? location ∨
      ∃ content, later.find? location = some (.file content)) :
    later.locateFile path slash = .ok location := by
  obtain ⟨hp, -, hc⟩ := locateFile_ok hl
  rcases hf with hf | ⟨content, hf⟩
  · rcases hc with ⟨content, ho⟩ | ⟨directory, name, hd, rfl, hv⟩
    · exact (h.points hp).locateFile (hf.trans ho) slash
    · exact (h.leads hd).locateFile (by rw [hf, hv]; simp) slash
  · exact (h.points hp).locateFile hf slash

theorem read_of_locateFile (hl : tree.locateFile path slash = .ok location) :
    tree.read path =
      match tree.find? location with
      | some (.file content) => .ok content
      | _ => .error .notFound := by
  obtain ⟨hp, -, ⟨content, hf⟩ | ⟨directory, name, hd, rfl, hv⟩⟩ := locateFile_ok hl
  · rw [hf, read, hp.fileAt hf]
    rfl
  · rw [hv, hd.read_vacant hv]

/-- What is read from a path depends on the node at its place alone. -/
theorem read_congr (hl : tree.locateFile path slash = .ok location)
    (hl' : later.locateFile path slash' = .ok location)
    (hf : later.find? location = tree.find? location) : later.read path = tree.read path := by
  rw [read_of_locateFile hl, read_of_locateFile hl', hf]

end FileTree

namespace FileStore

open FileTree

/-- A place where a change with some tag can have its draft, free in a tree. -/
structure DraftPlace (base : FileTree) (path : FilePath) (tag : List Char) (location : Location) :
    Prop where
  noSlash : '/' ∉ tag
  leads : ∃ directory name, base.Leads (draftOf path tag) directory name ∧
    location = directory ++ [name]
  vacant : base.find? location = none

theorem exists_draftPlace {base : FileTree} {path : FilePath} {tag : List Char} (ht : '/' ∉ tag)
    (h : base.IsFree (draftOf path tag)) : ∃ location, DraftPlace base path tag location := by
  obtain ⟨directory, name, hl, hv⟩ := h.leads
  exact ⟨directory ++ [name], ht, ⟨directory, name, hl, rfl⟩, hv⟩

namespace DraftPlace

variable {base tree : FileTree} {path : FilePath} {tag other : List Char}
  {location place destination : Location} {content : Bytes}

theorem ne_nil (h : DraftPlace base path tag location) : location ≠ [] := by
  obtain ⟨directory, name, -, rfl⟩ := h.leads
  simp

theorem not_directory (h : DraftPlace base path tag location) (hs : base.SameDirectories tree) :
    tree.find? location ≠ some .directory := by
  rw [Ne, ← hs.directory location, h.vacant]
  simp

theorem locateFile (h : DraftPlace base path tag location) (hs : base.SameDirectories tree)
    (slash : FileError) : tree.locateFile (draftOf path tag) slash = .ok location := by
  have hv := h.not_directory hs
  obtain ⟨directory, name, hl, rfl⟩ := h.leads
  exact (hs.leads hl).locateFile hv slash

theorem create (h : DraftPlace base path tag location) (hs : base.SameDirectories tree) :
    tree.create (draftOf path tag) = .ok (tree.put location (.file [])) := by
  rw [FileTree.create, h.locateFile hs]
  rfl

theorem fileAt (h : DraftPlace base path tag location) (hs : base.SameDirectories tree)
    (hf : tree.find? location = some (.file content)) :
    tree.fileAt (draftOf path tag) = .ok (location, content) := by
  obtain ⟨directory, name, hl, rfl⟩ := h.leads
  exact (hs.leads hl).fileAt hf

theorem write (h : DraftPlace base path tag location) (hs : base.SameDirectories tree)
    (hf : tree.find? location = some (.file content)) (bytes : Bytes) :
    tree.write (draftOf path tag) bytes = .ok (tree.put location (.file (content ++ bytes))) := by
  rw [FileTree.write, h.fileAt hs hf]
  rfl

theorem rename (h : DraftPlace base path tag location) (hs : base.SameDirectories tree)
    (hf : tree.find? location = some (.file content))
    (hd : tree.locateFile path .notADirectory = .ok destination) :
    tree.rename (draftOf path tag) path =
      .ok ((tree.erase location).put destination (.file content)) := by
  rw [FileTree.rename, h.fileAt hs hf]
  simp only [bind, Except.bind, hd]
  rfl

theorem ne_destination (h : DraftPlace base path tag location)
    (hd : base.locateFile path .notADirectory = .ok destination) : destination ≠ location := by
  have hx : '/' ∉ tag ++ '.' :: ['t', 'm', 'p'] := by simp [h.noSlash]
  exact points_ne_withExtension hx (by decide) (h.locateFile (.refl base) .isADirectory) h.vacant
    (locateFile_ok hd).1

/-- The last name of a draft's place is that of the store's file, with the tag in its extension. -/
theorem eq_concat (h : DraftPlace base path tag location)
    (hd : base.locateFile path .notADirectory = .ok destination) {front last : List Char}
    (he : FilePath.EndsIn path.text front last) :
    ∃ directory, location = directory ++
      [String.ofList (FilePath.stem last ++ '.' :: (tag ++ ['.', 't', 'm', 'p']))] := by
  obtain ⟨directory, name, hl, rfl⟩ := h.leads
  obtain ⟨before, hn, -⟩ := hl.names
  obtain ⟨before', above, name', hn', hw, -, rfl⟩ := (locateFile_ok hd).1.names
  have hname : name' = String.ofList last := by
    rw [namesOf_endsIn he] at hn'
    simpa using (List.append_inj' hn' rfl).2.symm
  have hdot : last ≠ ['.'] := by
    rintro rfl
    have hs : stepFrom above name' = above := if_pos hname
    exact not_directory_of_locateFile hd (by rw [hs, walk_taken hw])
  have hdots : last ≠ ['.', '.'] := by
    rintro rfl
    have hsame : draftOf path tag = path := by
      unfold draftOf FilePath.withExtension
      rw [he.getLast?_components hdot]
      simp
    rw [hsame, hn'] at hn
    have hlast : name' = name := by simpa using (List.append_inj' hn rfl).2
    exact hl.isEntryName.notAbove (hlast ▸ hname)
  have hx : '/' ∉ tag ++ ['.', 't', 'm', 'p'] := by simp [h.noSlash]
  have hdraft := he.withExtension hdot hdots hx
  rw [draftOf, namesOf_endsIn hdraft] at hn
  have hlast := (List.append_inj' hn rfl).2
  exact ⟨directory, by rw [← List.singleton_inj.mp hlast]⟩

/-- Drafts with different tags are at different places. -/
theorem ne (h : DraftPlace base path tag location) (ho : DraftPlace base path other place)
    (hd : base.locateFile path .notADirectory = .ok destination) (hne : tag ≠ other) :
    location ≠ place := by
  obtain ⟨hp, -, -⟩ := locateFile_ok hd
  obtain ⟨front, last, he⟩ := exists_endsIn_of_allowed hp.allowed hp.noSlash
  obtain ⟨directory, rfl⟩ := h.eq_concat hd he
  obtain ⟨above, rfl⟩ := ho.eq_concat hd he
  intro heq
  have hnames := String.ofList_injective (List.singleton_inj.mp (List.append_inj' heq rfl).2)
  have htags := List.cons.inj (List.append_cancel_left hnames)
  exact hne (List.append_cancel_right htags.2)

end DraftPlace

variable {tree later : FileTree} {path : FilePath} {destination : Location} {slash : FileError}

theorem textsIn_congr (hl : tree.locateFile path slash = .ok destination)
    (hl' : later.locateFile path slash = .ok destination)
    (hf : later.find? destination = tree.find? destination) :
    textsIn later path = textsIn tree path := by
  rw [textsIn, textsIn, read_congr hl hl' hf]

theorem textsIn_of_find? {texts : Bindings String}
    (hl : tree.locateFile path slash = .ok destination)
    (hf : tree.find? destination = some (.file (encodeText (StoreFile.print texts)))) :
    textsIn tree path = .ok texts :=
  textsIn_of_content? (content?_eq_some_iff.mpr ⟨destination, (locateFile_ok hl).1, hf⟩)

end FileStore

namespace StoreChange

variable {path : FilePath} {start later : Workspace} {destination : Location}
  {held : Bindings String}

/-- A change leaves the directories as they are, and the file of its store in its place. -/
theorem located_of_run_on {tag : List Char} {change : StoreChange}
    (hl : start.tree.locateFile path .notADirectory = .ok destination)
    (hr : FileStore.textsIn start.tree path = .ok held)
    (h : start.run (change.on ⟨path, true⟩ tag) = (later, ⟨path, true⟩, .ok ())) :
    start.tree.SameDirectories later.tree ∧
      later.tree.locateFile path .notADirectory = .ok destination := by
  obtain ⟨-, hc⟩ := run_carryOut_of_run_on hr h
  cases hi : change.isIdle held with
  | true =>
    rw [carryOut_of_isIdle hi] at hc
    cases hc
    exact ⟨.refl _, hl⟩
  | false =>
    obtain ⟨draft, target, hdraft, htarget, he⟩ := moved_of_run_carryOut hi hc
    have hput := FileTree.SameDirectories.drafted hdraft
      (encodeText (StoreFile.print (change.apply held)))
    have hp := (FileTree.locateFile_ok hl).1
    obtain ⟨hp', hroot, -⟩ := FileTree.locateFile_ok htarget
    obtain rfl := (hput.points hp).unique hp'
    have hs := hput.trans (.moved hdraft htarget)
    rw [he]
    exact ⟨hs, hs.locateFile hl (Or.inr ⟨_, by rw [Workspace.find?_moved hroot, if_pos rfl]⟩)⟩

/-- Where there are places for the drafts and for the file, no change fails. -/
theorem exists_runs_of_draftPlace {base : FileTree} {changes : List (List Char × StoreChange)}
    (hs : base.SameDirectories start.tree)
    (hl : start.tree.locateFile path .notADirectory = .ok destination)
    (hr : FileStore.textsIn start.tree path = .ok held)
    (hp : ∀ change ∈ changes, ∃ location, FileStore.DraftPlace base path change.1 location) :
    ∃ later, Runs path start changes later := by
  induction changes generalizing start held with
  | nil => exact ⟨start, runs_nil.mpr rfl⟩
  | cons first rest ih =>
    obtain ⟨location, hplace⟩ := hp _ List.mem_cons_self
    obtain ⟨between, ho⟩ := exists_run_on hr (hplace.locateFile hs .isADirectory) hl first.2
    obtain ⟨hsame, hlocated⟩ := located_of_run_on hl hr ho
    obtain ⟨later, hn⟩ := ih (hs.trans hsame) hlocated (textsIn_of_run_on hr ho).2
      fun change hm => hp change (List.mem_cons_of_mem _ hm)
    exact ⟨later, runs_cons.mpr ⟨between, ho, hn⟩⟩

end StoreChange

end RequestScript
