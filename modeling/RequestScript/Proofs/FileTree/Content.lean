import RequestScript.Proofs.FileTree

namespace RequestScript.FileTree

/-- The bytes of the file that a path leads to. -/
def content? (tree : FileTree) (path : FilePath) : Option Bytes :=
  (tree.read path).toOption

/-- Where a name leads from a directory. -/
def stepFrom (directory : Location) (name : String) : Location :=
  if name = "." then directory
  else if name = ".." then directory.dropLast
  else directory ++ [name]

theorem IsEntryName.stepFrom {name : String} (h : IsEntryName name) (directory : Location) :
    stepFrom directory name = directory ++ [name] := by
  rw [FileTree.stepFrom, if_neg h.notHere, if_neg h.notAbove]

theorem walk_name {tree : FileTree} {directory : Location} {name : String} {node : FileNode}
    (hd : tree.find? directory = some .directory) (hs : name.utf8ByteSize ≤ maxName)
    (hf : tree.find? (stepFrom directory name) = some node) :
    tree.walk directory [name] = .ok (.taken (stepFrom directory name) node) := by
  unfold stepFrom at hf ⊢
  split at hf
  next h =>
    subst h
    rw [if_pos rfl, walk_here [] hd]
    exact walk_nil hf
  split at hf
  next h =>
    subst h
    rw [if_neg (by decide), if_pos rfl, walk_above [] hd]
    exact walk_nil hf
  next h₁ h₂ =>
    rw [if_neg h₁, if_neg h₂, walk_into [] hd ⟨h₁, h₂, hs⟩ hf]
    exact walk_nil hf

theorem walk_name_cases {tree : FileTree} {directory : Location} {name : String} {place : Place}
    (h : tree.walk directory [name] = .ok place) :
    name.utf8ByteSize ≤ maxName ∧
      ((∃ node, place = .taken (stepFrom directory name) node ∧
          tree.find? (stepFrom directory name) = some node) ∨
        IsEntryName name ∧ place = .vacant directory name ∧
          tree.find? (stepFrom directory name) = none) := by
  rcases (walk_cons_cases h).2 with ⟨rfl, hr⟩ | ⟨rfl, hr⟩ | ⟨hn, -, hr⟩ | ⟨hn, hv, -, hp⟩
  · exact ⟨by decide, Or.inl (walk_nil_cases hr)⟩
  · exact ⟨by decide, Or.inl (walk_nil_cases hr)⟩
  · rw [hn.stepFrom]
    exact ⟨hn.fits, Or.inl (walk_nil_cases hr)⟩
  · rw [hn.stepFrom]
    exact ⟨hn.fits, Or.inr ⟨hn, hp, hv⟩⟩

/-- A path that may be that of a file leads to a location, whatever is there. -/
structure Points (tree : FileTree) (path : FilePath) (location : Location) : Prop where
  allowed : refusal? path = none
  noSlash : endsInSlash path = false
  names : ∃ before directory name, namesOf path = before ++ [name] ∧
    tree.walk (tree.startOf path) before = .ok (.taken directory .directory) ∧
    name.utf8ByteSize ≤ maxName ∧ location = stepFrom directory name

theorem Leads.points {tree : FileTree} {path : FilePath} {directory : Location} {name : String}
    (h : tree.Leads path directory name) : tree.Points path (directory ++ [name]) := by
  obtain ⟨before, hb, hw⟩ := h.names
  exact ⟨h.allowed, h.noSlash, before, directory, name, hb, hw, h.isEntryName.fits,
    (h.isEntryName.stepFrom directory).symm⟩

theorem exists_endsIn_of_allowed {path : FilePath} (ha : refusal? path = none)
    (hs : endsInSlash path = false) : ∃ front last, FilePath.EndsIn path.text front last := by
  have ht : path.text ≠ [] := by
    intro ht
    rw [refusal?, if_neg (by simp [ht]), if_pos ht] at ha
    cases ha
  exact FilePath.exists_endsIn ht (by simpa [endsInSlash] using hs)

theorem points_of_locate {tree : FileTree} {path : FilePath} {place : Place}
    (hs : endsInSlash path = false) (h : tree.locate path = .ok place) :
    ∃ location, tree.Points path location ∧
      ((∃ node, place = .taken location node ∧ tree.find? location = some node) ∨
        ∃ directory name, tree.Leads path directory name ∧ location = directory ++ [name] ∧
          place = .vacant directory name ∧ tree.find? location = none) := by
  have ha := allowed_of_locate h
  obtain ⟨front, last, he⟩ := exists_endsIn_of_allowed ha hs
  have hn := namesOf_endsIn he
  have hw := walk_of_locate h
  rw [hn] at hw
  obtain ⟨directory, hd, hl⟩ := walk_snoc hw
  obtain ⟨hf, hc⟩ := walk_name_cases hl
  refine ⟨stepFrom directory (String.ofList last), ⟨ha, hs, _, _, _, hn, hd, hf, rfl⟩, ?_⟩
  rcases hc with hc | ⟨hi, hp, hv⟩
  · exact Or.inl hc
  · exact Or.inr ⟨directory, _, ⟨ha, hs, ⟨_, hn, hd⟩, hi⟩, hi.stepFrom directory, hp, hv⟩

namespace Points

variable {tree : FileTree} {path : FilePath} {location other : Location} {content : Bytes}

theorem unique (h : tree.Points path location) (ho : tree.Points path other) :
    location = other := by
  obtain ⟨before, directory, name, hn, hw, -, rfl⟩ := h.names
  obtain ⟨before', directory', name', hn', hw', -, rfl⟩ := ho.names
  rw [hn] at hn'
  obtain ⟨rfl, hl⟩ := List.append_inj' hn' rfl
  cases hl
  rw [hw] at hw'
  cases hw'
  rfl

theorem locate_file (h : tree.Points path location)
    (hf : tree.find? location = some (.file content)) :
    tree.locate path = .ok (.taken location (.file content)) := by
  obtain ⟨before, directory, name, hn, hw, hs, rfl⟩ := h.names
  have hl := walk_name (walk_taken hw) hs hf
  unfold locate
  rw [h.allowed, hn, walk_append hw, hl]
  simp only [h.noSlash, Bool.false_eq_true, if_false]

theorem fileAt (h : tree.Points path location)
    (hf : tree.find? location = some (.file content)) :
    tree.fileAt path = .ok (location, content) := by
  unfold FileTree.fileAt
  rw [h.locate_file hf]
  rfl

theorem locateFile (h : tree.Points path location)
    (hf : tree.find? location = some (.file content)) (slash : FileError) :
    tree.locateFile path slash = .ok location := by
  unfold FileTree.locateFile
  rw [h.noSlash, h.locate_file hf]
  rfl

end Points

variable {tree later : FileTree} {path : FilePath} {location : Location} {content : Bytes}

theorem endsInSlash_of_locate (h : tree.locate path = .ok (.taken location (.file content))) :
    endsInSlash path = false := by
  unfold locate at h
  split at h
  next => cases h
  next =>
    split at h
    next =>
      cases hs : endsInSlash path with
      | false => rfl
      | true =>
        rw [hs] at h
        cases h
    next hw => exact absurd h (hw location content)

theorem fileAt_ok_iff : tree.fileAt path = .ok (location, content) ↔
    tree.Points path location ∧ tree.find? location = some (.file content) := by
  refine ⟨fun h => ?_, fun h => h.1.fileAt h.2⟩
  have hl : tree.locate path = .ok (.taken location (.file content)) := by
    unfold fileAt at h
    cases hl : tree.locate path with
    | error error => rw [hl] at h; cases h
    | ok place =>
      rw [hl] at h
      cases place with
      | vacant directory name => cases h
      | taken found node =>
        cases node with
        | directory => cases h
        | file bytes => cases h; rfl
  obtain ⟨found, hp, hc⟩ := points_of_locate (endsInSlash_of_locate hl) hl
  rcases hc with ⟨node, he, hf⟩ | ⟨_, _, _, _, he, _⟩
  · cases he
    exact ⟨hp, hf⟩
  · cases he

theorem content?_eq_some_iff : tree.content? path = some content ↔
    ∃ location, tree.Points path location ∧ tree.find? location = some (.file content) := by
  simp only [← fileAt_ok_iff]
  unfold content? read
  cases hf : tree.fileAt path with
  | error error => simp [Except.map, Except.toOption]
  | ok found =>
    obtain ⟨location, bytes⟩ := found
    simp only [Except.map, Except.toOption, Option.some.injEq, Except.ok.injEq, Prod.mk.injEq]
    constructor
    · rintro rfl
      exact ⟨location, rfl, rfl⟩
    · rintro ⟨_, _, h⟩
      exact h

theorem isFile_eq_false_iff : tree.isFile path = false ↔ tree.content? path = none := by
  unfold isFile node? content? read fileAt
  cases tree.locate path with
  | error error => simp [Except.toOption, bind, Except.bind, Except.map]
  | ok place =>
    cases place with
    | vacant directory name => simp [Except.toOption, bind, Except.bind, Except.map]
    | taken location node =>
      cases node <;> simp [Except.toOption, bind, Except.bind, Except.map]

theorem locateFile_ok {slash : FileError} (h : tree.locateFile path slash = .ok location) :
    tree.Points path location ∧ location ≠ [] ∧
      ((∃ content, tree.find? location = some (.file content)) ∨
        ∃ directory name, tree.Leads path directory name ∧ location = directory ++ [name] ∧
          tree.find? location = none) := by
  have hs : endsInSlash path = false := by
    cases hs : endsInSlash path with
    | false => rfl
    | true =>
      unfold locateFile at h
      rw [hs] at h
      cases hp : tree.locateParent path <;> rw [hp] at h <;> cases h
  unfold locateFile at h
  rw [hs] at h
  cases hl : tree.locate path with
  | error error => rw [hl] at h; cases h
  | ok place =>
    rw [hl] at h
    obtain ⟨found, hp, hc⟩ := points_of_locate hs hl
    rcases hc with ⟨node, rfl, hf⟩ | ⟨directory, name, hd, rfl, rfl, hv⟩
    · cases node with
      | directory => cases h
      | file content =>
        cases h
        refine ⟨hp, ?_, Or.inl ⟨content, hf⟩⟩
        rintro rfl
        cases hf
    · cases h
      exact ⟨hp, by simp, Or.inr ⟨directory, name, hd, rfl, hv⟩⟩

/-- Two trees have the same directories, and paths start at the same place. -/
structure SameDirectories (tree later : FileTree) : Prop where
  current : later.current = tree.current
  directory : ∀ location,
    tree.find? location = some .directory ↔ later.find? location = some .directory

namespace SameDirectories

theorem refl (tree : FileTree) : tree.SameDirectories tree :=
  ⟨rfl, fun _ => Iff.rfl⟩

theorem symm (h : tree.SameDirectories later) : later.SameDirectories tree :=
  ⟨h.current.symm, fun location => (h.directory location).symm⟩

theorem trans {after : FileTree} (h : tree.SameDirectories later)
    (ha : later.SameDirectories after) : tree.SameDirectories after :=
  ⟨ha.current.trans h.current, fun location =>
    (h.directory location).trans (ha.directory location)⟩

/-- A change at a place where there is no directory, before or after it. -/
theorem elsewhere (hd : tree.find? location ≠ some .directory)
    (hd' : later.find? location ≠ some .directory) (hc : later.current = tree.current)
    (h : ∀ other, other ≠ [] → other ≠ location → later.find? other = tree.find? other) :
    tree.SameDirectories later := by
  refine ⟨hc, fun other => ?_⟩
  by_cases hr : other = []
  · subst hr
    exact Iff.rfl
  by_cases ho : other = location
  · subst ho
    exact iff_of_false hd hd'
  · rw [h other hr ho]

theorem put (hr : location ≠ []) (hd : tree.find? location ≠ some .directory) (content : Bytes) :
    tree.SameDirectories (tree.put location (.file content)) :=
  elsewhere hd (by rw [find?_put hr, if_pos rfl]; simp) rfl fun _ ho hne => by
    rw [find?_put ho, if_neg hne]

theorem erase (hr : location ≠ []) (hd : tree.find? location ≠ some .directory) :
    tree.SameDirectories (tree.erase location) :=
  elsewhere hd (by rw [find?_erase hr, if_pos rfl]; simp) rfl fun _ ho hne => by
    rw [find?_erase ho, if_neg hne]

theorem walk (h : tree.SameDirectories later) {names : List String} {here : Location}
    (hw : tree.walk here names = .ok (.taken location .directory)) :
    later.walk here names = .ok (.taken location .directory) :=
  walk_of_directories (fun location => (h.directory location).mp) hw
    ((h.directory location).mp (walk_taken hw))

theorem startOf (h : tree.SameDirectories later) (path : FilePath) :
    later.startOf path = tree.startOf path := by
  rw [FileTree.startOf, FileTree.startOf, h.current]

theorem points (h : tree.SameDirectories later) (hp : tree.Points path location) :
    later.Points path location := by
  obtain ⟨before, directory, name, hn, hw, hs⟩ := hp.names
  rw [← h.startOf path] at hw
  exact ⟨hp.allowed, hp.noSlash, before, directory, name, hn, h.walk hw, hs⟩

theorem leads (h : tree.SameDirectories later) {directory : Location} {name : String}
    (hl : tree.Leads path directory name) : later.Leads path directory name := by
  obtain ⟨before, hn, hw⟩ := hl.names
  rw [← h.startOf path] at hw
  exact ⟨hl.allowed, hl.noSlash, ⟨before, hn, h.walk hw⟩, hl.isEntryName⟩

/-- A path has the same content in two trees with the same directories if they agree about the place
that it leads to. -/
theorem content?_eq (h : tree.SameDirectories later)
    (hf : ∀ location, tree.Points path location →
      later.find? location = tree.find? location) :
    later.content? path = tree.content? path := by
  apply Option.ext
  intro content
  rw [content?_eq_some_iff, content?_eq_some_iff]
  constructor
  · rintro ⟨location, hp, hc⟩
    have hp' := h.symm.points hp
    exact ⟨location, hp', by rw [← hf location hp', hc]⟩
  · rintro ⟨location, hp, hc⟩
    exact ⟨location, h.points hp, by rw [hf location hp, hc]⟩

end SameDirectories

/-- A path whose extension gets another point never leads to the place that the new path takes. -/
theorem points_ne_withExtension {extension last : List Char} {draft : Location}
    {slash : FileError} (hx : '/' ∉ extension ++ '.' :: last) (hl : '.' ∉ last)
    (hd : tree.locateFile (path.withExtension (extension ++ '.' :: last)) slash = .ok draft)
    (hv : tree.find? draft = none) (hp : tree.Points path location) : location ≠ draft := by
  obtain ⟨-, -, hc⟩ := locateFile_ok hd
  rcases hc with ⟨content, hf⟩ | ⟨above, new, hnew, rfl, -⟩
  · rw [hv] at hf
    cases hf
  obtain ⟨before', hn', -⟩ := hnew.names
  obtain ⟨before, directory, name, hn, hw, -, rfl⟩ := hp.names
  obtain ⟨front, old, he⟩ := exists_endsIn_of_allowed hp.allowed hp.noSlash
  have hname : name = String.ofList old := by
    rw [namesOf_endsIn he] at hn
    have hs := (List.append_inj' hn rfl).2
    simpa using hs.symm
  -- a path that ends in `.` leads to a directory, and one that ends in `..` has no extension: only
  -- behind any other name the names of the two paths can be compared
  by_cases hdot : old = ['.']
  · have hdir := walk_taken hw
    rw [hname, hdot]
    rintro rfl
    exact absurd (hv.symm.trans hdir) (by simp)
  by_cases hdots : old = ['.', '.']
  · have hsame : path.withExtension (extension ++ '.' :: last) = path := by
      unfold FilePath.withExtension
      rw [he.getLast?_components hdot]
      simp [hdots]
    rw [hsame, hn] at hn'
    have hs := (List.append_inj' hn' rfl).2
    have hnd : new = ".." := by
      rw [hname, hdots] at hs
      simpa using hs.symm
    exact absurd hnd hnew.isEntryName.notAbove
  · have he' := he.withExtension hdot hdots hx
    rw [namesOf_endsIn he'] at hn'
    have hs := (List.append_inj' hn' rfl).2
    have hnn : name ≠ new := by
      intro h
      rw [← h, hname] at hs
      have ht : FilePath.stem old ++ '.' :: (extension ++ '.' :: last) = old := by
        exact String.ofList_injective (List.singleton_inj.mp hs)
      exact FilePath.stem_append_ne old extension hl ht
    have h₁ : name ≠ "." := fun h => hdot (by simpa [h] using congrArg String.toList hname.symm)
    have h₂ : name ≠ ".." := fun h => hdots (by simpa [h] using congrArg String.toList hname.symm)
    rw [stepFrom, if_neg h₁, if_neg h₂]
    intro h
    have ht := (List.append_inj' h rfl).2
    exact hnn (by simpa using ht)

theorem put_put (tree : FileTree) (location : Location) (first second : FileNode) :
    (tree.put location first).put location second = tree.put location second := by
  unfold put
  simp [List.filter_filter]

/-- Nothing is left of a node that has come and gone. -/
theorem erase_put {node : FileNode} (hr : location ≠ []) (hv : tree.find? location = none) :
    (tree.put location node).erase location = tree := by
  have hn : tree.nodes.filter (fun entry => entry.1 != location) = tree.nodes := by
    rw [find?, if_neg hr] at hv
    refine List.filter_eq_self.mpr fun entry he => ?_
    exact bne_iff_ne.mpr (bne_iff_ne.mp (List.lookup_eq_none_iff.mp hv entry he)).symm
  unfold erase put
  simp [hn]

end RequestScript.FileTree
