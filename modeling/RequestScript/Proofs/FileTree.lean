import RequestScript.Proofs.FileTree.Names

namespace RequestScript.FileTree

theorem lookup_filter_ne {α β : Type} [BEq α] [LawfulBEq α] (entries : List (α × β))
    (key other : α) :
    (entries.filter fun entry => entry.1 != key).lookup other =
      if other == key then none else entries.lookup other := by
  induction entries with
  | nil => simp
  | cons entry rest ih =>
    obtain ⟨first, value⟩ := entry
    by_cases hk : first = key
    · subst hk
      rw [List.filter_cons_of_neg (by simp), ih, List.lookup_cons]
      cases other == first <;> simp
    · rw [List.filter_cons_of_pos (by simpa using hk), List.lookup_cons, List.lookup_cons, ih]
      by_cases ho : other = first
      · subst ho
        simp [hk]
      · have hb : (other == first) = false := by simpa using ho
        simp [hb]

theorem find?_put {tree : FileTree} {location other : Location} {node : FileNode}
    (h : other ≠ []) :
    (tree.put location node).find? other =
      if other = location then some node else tree.find? other := by
  unfold find? put
  rw [if_neg h, if_neg h, List.lookup_cons, lookup_filter_ne]
  by_cases ho : other = location
  · simp [ho]
  · have hb : (other == location) = false := by simpa using ho
    simp [ho, hb]

theorem find?_erase {tree : FileTree} {location other : Location} (h : other ≠ []) :
    (tree.erase location).find? other = if other = location then none else tree.find? other := by
  unfold find? erase
  rw [if_neg h, if_neg h, lookup_filter_ne]
  by_cases ho : other = location <;> simp [ho]

/-- A name that leads to what a directory holds under it. -/
structure IsEntryName (name : String) : Prop where
  notHere : name ≠ "."
  notAbove : name ≠ ".."
  fits : name.utf8ByteSize ≤ maxName

theorem walk_cons {tree : FileTree} {here : Location} (name : String) (rest : List String)
    (hd : tree.find? here = some .directory) :
    tree.walk here (name :: rest) =
      if name = "." then tree.walk here rest
      else if name = ".." then tree.walk here.dropLast rest
      else if maxName < name.utf8ByteSize then .error .nameTooLong
      else
        match tree.find? (here ++ [name]), rest with
        | none, [] => .ok (.vacant here name)
        | none, _ :: _ => .error .notFound
        | some _, rest => tree.walk (here ++ [name]) rest := by
  cases hn : tree.find? (here ++ [name]) <;> cases rest <;> rw [walk.eq_def] <;>
    simp only [hd, hn]

theorem walk_entry {tree : FileTree} {here : Location} {name : String} (rest : List String)
    (hd : tree.find? here = some .directory) (hn : IsEntryName name) :
    tree.walk here (name :: rest) =
      match tree.find? (here ++ [name]), rest with
      | none, [] => .ok (.vacant here name)
      | none, _ :: _ => .error .notFound
      | some _, rest => tree.walk (here ++ [name]) rest := by
  rw [walk_cons name rest hd, if_neg hn.notHere, if_neg hn.notAbove,
    if_neg (Nat.not_lt.mpr hn.fits)]

/-- Where the first of some names leads: nowhere, or to a place from which the others go on. -/
theorem walk_cons_cases {tree : FileTree} {here : Location} {name : String} {rest : List String}
    {place : Place} (h : tree.walk here (name :: rest) = .ok place) :
    tree.find? here = some .directory ∧
      ((name = "." ∧ tree.walk here rest = .ok place) ∨
      (name = ".." ∧ tree.walk here.dropLast rest = .ok place) ∨
      (IsEntryName name ∧ (∃ node, tree.find? (here ++ [name]) = some node) ∧
        tree.walk (here ++ [name]) rest = .ok place) ∨
      (IsEntryName name ∧ tree.find? (here ++ [name]) = none ∧ rest = [] ∧
        place = .vacant here name)) := by
  have hd : tree.find? here = some .directory := by
    rw [walk.eq_def] at h
    cases hf : tree.find? here with
    | none => simp [hf] at h
    | some node => cases node with
      | file content => simp [hf] at h
      | directory => rfl
  refine ⟨hd, ?_⟩
  rw [walk_cons name rest hd] at h
  split at h
  next h₁ => exact Or.inl ⟨h₁, h⟩
  split at h
  next h₂ => exact Or.inr (Or.inl ⟨h₂, h⟩)
  split at h
  next => cases h
  next h₁ h₂ h₃ =>
    have hn : IsEntryName name := ⟨h₁, h₂, Nat.not_lt.mp h₃⟩
    cases hf : tree.find? (here ++ [name]) with
    | some node =>
      rw [hf] at h
      exact Or.inr (Or.inr (Or.inl ⟨hn, ⟨node, rfl⟩, h⟩))
    | none =>
      rw [hf] at h
      cases rest with
      | nil => cases h; exact Or.inr (Or.inr (Or.inr ⟨hn, rfl, rfl, rfl⟩))
      | cons next rest => cases h

theorem walk_here {tree : FileTree} {here : Location} (rest : List String)
    (hd : tree.find? here = some .directory) :
    tree.walk here ("." :: rest) = tree.walk here rest := by
  rw [walk_cons _ rest hd, if_pos rfl]

theorem walk_above {tree : FileTree} {here : Location} (rest : List String)
    (hd : tree.find? here = some .directory) :
    tree.walk here (".." :: rest) = tree.walk here.dropLast rest := by
  rw [walk_cons _ rest hd, if_neg (by decide), if_pos rfl]

theorem walk_into {tree : FileTree} {here : Location} {name : String} {node : FileNode}
    (rest : List String) (hd : tree.find? here = some .directory) (hn : IsEntryName name)
    (hf : tree.find? (here ++ [name]) = some node) :
    tree.walk here (name :: rest) = tree.walk (here ++ [name]) rest := by
  rw [walk_entry rest hd hn, hf]

theorem walk_nil {tree : FileTree} {here : Location} {node : FileNode}
    (h : tree.find? here = some node) : tree.walk here [] = .ok (.taken here node) := by
  rw [walk, h]

theorem walk_nil_cases {tree : FileTree} {here : Location} {place : Place}
    (h : tree.walk here [] = .ok place) :
    ∃ node, place = .taken here node ∧ tree.find? here = some node := by
  cases hf : tree.find? here with
  | none => simp [walk, hf] at h
  | some node =>
    rw [walk_nil hf] at h
    cases h
    exact ⟨node, rfl, rfl⟩

theorem walk_taken {tree : FileTree} {names : List String} {here location : Location}
    {node : FileNode} (h : tree.walk here names = .ok (.taken location node)) :
    tree.find? location = some node := by
  induction names generalizing here with
  | nil =>
    obtain ⟨found, hp, hf⟩ := walk_nil_cases h
    cases hp
    exact hf
  | cons first rest ih =>
    rcases (walk_cons_cases h).2 with ⟨_, hr⟩ | ⟨_, hr⟩ | ⟨_, _, hr⟩ | ⟨_, _, _, hp⟩
    · exact ih hr
    · exact ih hr
    · exact ih hr
    · cases hp

/-- Names lead to the same place in a tree that has all directories of another one. -/
theorem walk_of_directories {tree later : FileTree}
    (hd : ∀ location, tree.find? location = some .directory →
      later.find? location = some .directory)
    {names : List String} {here location : Location} {node : FileNode}
    (hw : tree.walk here names = .ok (.taken location node))
    (hn : later.find? location = some node) :
    later.walk here names = .ok (.taken location node) := by
  induction names generalizing here with
  | nil =>
    obtain ⟨found, hp, -⟩ := walk_nil_cases hw
    cases hp
    exact walk_nil hn
  | cons name rest ih =>
    obtain ⟨hh, hc⟩ := walk_cons_cases hw
    have hh' := hd here hh
    rcases hc with ⟨rfl, hr⟩ | ⟨rfl, hr⟩ | ⟨he, ⟨next, hf⟩, hr⟩ | ⟨_, _, _, hp⟩
    · rw [walk_here rest hh']
      exact ih hr
    · rw [walk_above rest hh']
      exact ih hr
    · have hnext : ∃ found, later.find? (here ++ [name]) = some found := by
        cases rest with
        | nil =>
          rw [walk_nil hf] at hr
          cases hr
          exact ⟨node, hn⟩
        | cons second rest => exact ⟨.directory, hd _ (walk_cons_cases hr).1⟩
      obtain ⟨found, hf'⟩ := hnext
      rw [walk_into rest hh' he hf']
      exact ih hr
    · cases hp

/-- Whatever is in one tree is in another, where paths start at the same place. -/
structure Keeps (tree later : FileTree) : Prop where
  current : later.current = tree.current
  node : ∀ location node, tree.find? location = some node → later.find? location = some node

namespace Keeps

theorem refl (tree : FileTree) : tree.Keeps tree :=
  ⟨rfl, fun _ _ h => h⟩

theorem startOf {tree later : FileTree} (hk : tree.Keeps later) (path : FilePath) :
    later.startOf path = tree.startOf path := by
  rw [FileTree.startOf, FileTree.startOf, hk.current]

/-- A tree is kept by a change at a place where it has no node. -/
theorem elsewhere {tree later after : FileTree} {location : Location} (hk : tree.Keeps later)
    (hv : tree.find? location = none) (hc : after.current = later.current)
    (h : ∀ other, other ≠ [] → other ≠ location → after.find? other = later.find? other) :
    tree.Keeps after := by
  refine ⟨hc.trans hk.current, fun other node ho => ?_⟩
  by_cases hr : other = []
  · subst hr
    exact ho
  · have hne : other ≠ location := by
      rintro rfl
      rw [hv] at ho
      cases ho
    rw [h other hr hne]
    exact hk.node other node ho

theorem put {tree later : FileTree} {location : Location} (hk : tree.Keeps later)
    (hv : tree.find? location = none) (node : FileNode) : tree.Keeps (later.put location node) :=
  hk.elsewhere hv rfl fun _ hr hne => by rw [find?_put hr, if_neg hne]

theorem erase {tree later : FileTree} {location : Location} (hk : tree.Keeps later)
    (hv : tree.find? location = none) : tree.Keeps (later.erase location) :=
  hk.elsewhere hv rfl fun _ hr hne => by rw [find?_erase hr, if_neg hne]

/-- Names that lead to a node still lead there when more nodes have come. -/
theorem walk {tree later : FileTree} (hk : tree.Keeps later) {names : List String}
    {here location : Location} {node : FileNode}
    (h : tree.walk here names = .ok (.taken location node)) :
    later.walk here names = .ok (.taken location node) :=
  walk_of_directories (fun location => hk.node location .directory) h
    (hk.node location node (walk_taken h))

end Keeps

theorem walk_append {tree : FileTree} {before : List String} {here directory : Location}
    (h : tree.walk here before = .ok (.taken directory .directory)) (names : List String) :
    tree.walk here (before ++ names) = tree.walk directory names := by
  induction before generalizing here with
  | nil =>
    obtain ⟨found, hp, -⟩ := walk_nil_cases h
    cases hp
    rfl
  | cons first rest ih =>
    obtain ⟨hd, hc⟩ := walk_cons_cases h
    rw [List.cons_append]
    rcases hc with ⟨rfl, hr⟩ | ⟨rfl, hr⟩ | ⟨hf, ⟨next, hx⟩, hr⟩ | ⟨_, _, _, hp⟩
    · rw [walk_here _ hd]
      exact ih hr
    · rw [walk_above _ hd]
      exact ih hr
    · rw [walk_into _ hd hf hx]
      exact ih hr
    · cases hp

/-- All names but the last lead to a directory. -/
theorem walk_snoc {tree : FileTree} {before : List String} {name : String} {here : Location}
    {place : Place} (h : tree.walk here (before ++ [name]) = .ok place) :
    ∃ directory, tree.walk here before = .ok (.taken directory .directory) ∧
      tree.walk directory [name] = .ok place := by
  induction before generalizing here with
  | nil =>
    exact ⟨here, walk_nil (walk_cons_cases h).1, h⟩
  | cons first rest ih =>
    rw [List.cons_append] at h
    obtain ⟨hd, hc⟩ := walk_cons_cases h
    rcases hc with ⟨rfl, hr⟩ | ⟨rfl, hr⟩ | ⟨hf, ⟨next, hx⟩, hr⟩ | ⟨_, _, he, _⟩
    · obtain ⟨directory, hw, hl⟩ := ih hr
      exact ⟨directory, by rw [walk_here _ hd, hw], hl⟩
    · obtain ⟨directory, hw, hl⟩ := ih hr
      exact ⟨directory, by rw [walk_above _ hd, hw], hl⟩
    · obtain ⟨directory, hw, hl⟩ := ih hr
      exact ⟨directory, by rw [walk_into _ hd hf hx, hw], hl⟩
    · simp at he

theorem walk_append_entry {tree : FileTree} {before : List String} {here directory : Location}
    {name : String} (h : tree.walk here before = .ok (.taken directory .directory))
    (hn : IsEntryName name) :
    tree.walk here (before ++ [name]) =
      match tree.find? (directory ++ [name]) with
      | none => .ok (.vacant directory name)
      | some node => .ok (.taken (directory ++ [name]) node) := by
  rw [walk_append h, walk_entry [] (walk_taken h) hn]
  cases hf : tree.find? (directory ++ [name]) with
  | none => rfl
  | some node => exact walk_nil hf

theorem walk_vacant {tree : FileTree} {names : List String} {here directory : Location}
    {name : String} (h : tree.walk here names = .ok (.vacant directory name)) :
    ∃ before, names = before ++ [name] ∧ IsEntryName name ∧
      tree.walk here before = .ok (.taken directory .directory) ∧
      tree.find? (directory ++ [name]) = none := by
  rcases List.eq_nil_or_concat' names with rfl | ⟨before, last, rfl⟩
  · obtain ⟨found, hp, -⟩ := walk_nil_cases h
    cases hp
  obtain ⟨above, hw, hl⟩ := walk_snoc h
  have hnil (location : Location) : tree.walk location [] ≠ .ok (.vacant directory name) := by
    intro hn
    obtain ⟨found, hp, -⟩ := walk_nil_cases hn
    cases hp
  rcases (walk_cons_cases hl).2 with ⟨_, hr⟩ | ⟨_, hr⟩ | ⟨_, _, hr⟩ | ⟨hn, hv, _, hp⟩
  · exact absurd hr (hnil _)
  · exact absurd hr (hnil _)
  · exact absurd hr (hnil _)
  · cases hp
    exact ⟨before, rfl, hn, hw, hv⟩

/-- One tree has grown to another: all that was there still is, and all that has come are files. -/
structure Grows (tree later : FileTree) : Prop extends tree.Keeps later where
  onlyFiles : ∀ location, tree.find? location = none → later.find? location ≠ some .directory

namespace Grows

variable {tree later : FileTree} {location : Location}

theorem refl (tree : FileTree) : tree.Grows tree :=
  ⟨Keeps.refl tree, fun _ h => by simp [h]⟩

theorem put (h : tree.Grows later) (hv : tree.find? location = none) (content : Bytes) :
    tree.Grows (later.put location (.file content)) := by
  refine ⟨h.toKeeps.put hv _, fun other ho => ?_⟩
  have hr : other ≠ [] := by
    rintro rfl
    cases ho
  rw [find?_put hr]
  split
  · simp
  · exact h.onlyFiles other ho

theorem erase (h : tree.Grows later) (hv : tree.find? location = none) :
    tree.Grows (later.erase location) := by
  refine ⟨h.toKeeps.erase hv, fun other ho => ?_⟩
  have hr : other ≠ [] := by
    rintro rfl
    cases ho
  rw [find?_erase hr]
  split
  · simp
  · exact h.onlyFiles other ho

end Grows

theorem allowed_of_locate {tree : FileTree} {path : FilePath} {place : Place}
    (h : tree.locate path = .ok place) : refusal? path = none := by
  unfold locate at h
  split at h
  next => cases h
  next ha => exact ha

theorem walk_of_locate {tree : FileTree} {path : FilePath} {place : Place}
    (h : tree.locate path = .ok place) :
    tree.walk (tree.startOf path) (namesOf path) = .ok place := by
  have ha := allowed_of_locate h
  unfold locate at h
  rw [ha] at h
  dsimp only at h
  split at h
  next hw =>
    split at h
    next => cases h
    next => rw [hw, h]
  next => exact h

/-- A path whose last name may be that of a file in a directory of a tree. -/
structure Leads (tree : FileTree) (path : FilePath) (directory : Location) (name : String) :
    Prop where
  allowed : refusal? path = none
  noSlash : endsInSlash path = false
  names : ∃ before, namesOf path = before ++ [name] ∧
    tree.walk (tree.startOf path) before = .ok (.taken directory .directory)
  isEntryName : IsEntryName name

/-- A path that leads to a name which is free. -/
def IsFree (tree : FileTree) (path : FilePath) : Prop :=
  endsInSlash path = false ∧ ∃ directory name, tree.locate path = .ok (.vacant directory name)

theorem IsFree.leads {tree : FileTree} {path : FilePath} (h : tree.IsFree path) :
    ∃ directory name, tree.Leads path directory name ∧
      tree.find? (directory ++ [name]) = none := by
  obtain ⟨hs, directory, name, hl⟩ := h
  obtain ⟨before, hb, hn, hd, hv⟩ := walk_vacant (walk_of_locate hl)
  exact ⟨directory, name, ⟨allowed_of_locate hl, hs, ⟨before, hb, hd⟩, hn⟩, hv⟩

namespace Leads

variable {tree : FileTree} {path : FilePath} {directory : Location} {name : String}

theorem keeps {later : FileTree} (h : tree.Leads path directory name) (hk : tree.Keeps later) :
    later.Leads path directory name := by
  obtain ⟨before, hb, hw⟩ := h.names
  refine ⟨h.allowed, h.noSlash, ⟨before, hb, ?_⟩, h.isEntryName⟩
  rw [hk.startOf path]
  exact hk.walk hw

theorem locate_vacant (h : tree.Leads path directory name)
    (hf : tree.find? (directory ++ [name]) = none) :
    tree.locate path = .ok (.vacant directory name) := by
  obtain ⟨before, hb, hw⟩ := h.names
  unfold locate
  rw [h.allowed, hb]
  simp only [walk_append_entry hw h.isEntryName, hf]

theorem locate_file (h : tree.Leads path directory name) {content : Bytes}
    (hf : tree.find? (directory ++ [name]) = some (.file content)) :
    tree.locate path = .ok (.taken (directory ++ [name]) (.file content)) := by
  obtain ⟨before, hb, hw⟩ := h.names
  unfold locate
  rw [h.allowed, hb]
  simp only [walk_append_entry hw h.isEntryName, hf, h.noSlash, Bool.false_eq_true, if_false]

theorem locateFile (h : tree.Leads path directory name)
    (hf : tree.find? (directory ++ [name]) ≠ some .directory) (slash : FileError) :
    tree.locateFile path slash = .ok (directory ++ [name]) := by
  unfold FileTree.locateFile
  rw [h.noSlash]
  cases hx : tree.find? (directory ++ [name]) with
  | none => rw [h.locate_vacant hx]; rfl
  | some node =>
    cases node with
    | directory => exact absurd hx hf
    | file content => rw [h.locate_file hx]; rfl

theorem fileAt (h : tree.Leads path directory name) {content : Bytes}
    (hf : tree.find? (directory ++ [name]) = some (.file content)) :
    tree.fileAt path = .ok (directory ++ [name], content) := by
  unfold FileTree.fileAt
  rw [h.locate_file hf]
  rfl

theorem read_vacant (h : tree.Leads path directory name)
    (hf : tree.find? (directory ++ [name]) = none) : tree.read path = .error .notFound := by
  unfold read FileTree.fileAt
  rw [h.locate_vacant hf]
  rfl

end Leads

theorem node?_of_keeps {tree later : FileTree} (hk : tree.Keeps later) {path : FilePath}
    {node : FileNode} (h : tree.node? path = some node) : later.node? path = some node := by
  have hl : ∃ location, tree.locate path = .ok (.taken location node) := by
    unfold node? at h
    split at h
    next location found hf => cases h; exact ⟨location, hf⟩
    next => cases h
  obtain ⟨location, hl⟩ := hl
  have hl' : later.locate path = .ok (.taken location node) := by
    unfold locate at hl ⊢
    split at hl
    next => cases hl
    next ha =>
      rw [hk.startOf path]
      cases hw : tree.walk (tree.startOf path) (namesOf path) with
      | error error => simp [hw] at hl
      | ok place =>
        cases place with
        | vacant directory name => simp [hw] at hl
        | taken found entry =>
          rw [hk.walk hw]
          rw [hw] at hl
          exact hl
  unfold node?
  rw [hl']

theorem isDirectory_iff {tree : FileTree} {path : FilePath} :
    tree.isDirectory path = true ↔ tree.node? path = some .directory := by
  simp [isDirectory]

/-- A directory that has been made is there. -/
theorem node?_makeDirectory {tree later : FileTree} {path : FilePath}
    (h : tree.makeDirectory path = .ok later) : later.node? path = some .directory := by
  have hl : ∃ directory name, tree.locate path = .ok (.vacant directory name) ∧
      later = tree.put (directory ++ [name]) .directory := by
    unfold makeDirectory at h
    cases hp : tree.locate path with
    | error error => rw [hp] at h; cases h
    | ok place =>
      rw [hp] at h
      cases place with
      | taken location node => cases h
      | vacant directory name => cases h; exact ⟨directory, name, rfl, rfl⟩
  obtain ⟨directory, name, hl, rfl⟩ := hl
  have hn : directory ++ [name] ≠ [] := by simp
  have hf : (tree.put (directory ++ [name]) .directory).find? (directory ++ [name]) =
      some .directory := by
    rw [find?_put hn, if_pos rfl]
  obtain ⟨before, hb, he, hd, hv⟩ := walk_vacant (walk_of_locate hl)
  have hk : tree.Keeps (tree.put (directory ++ [name]) .directory) :=
    (Keeps.refl tree).put hv .directory
  have hw := walk_append_entry (hk.walk hd) he
  rw [hf, ← hb] at hw
  unfold node? locate
  rw [allowed_of_locate hl, hk.startOf path]
  simp only [hw]

theorem leads_name {tree : FileTree} {path : FilePath} (hr : refusal? path = none)
    (hs : '/' ∉ path.text) (hn : IsEntryName path.toString)
    (hd : tree.find? tree.current = some .directory) :
    tree.Leads path tree.current path.toString := by
  have ht : path.text ≠ [] := by
    intro ht
    rw [refusal?, if_neg (by simp [ht]), if_pos ht] at hr
    cases hr
  have hl : endsInSlash path = false := by
    cases hc : endsInSlash path with
    | false => rfl
    | true => exact absurd (List.mem_of_getLast? (by simpa [endsInSlash] using hc)) hs
  have ha : path.isAbsolute = false := by
    cases hc : path.isAbsolute with
    | false => rfl
    | true => exact absurd (List.mem_of_head? (by simpa [FilePath.isAbsolute] using hc)) hs
  refine ⟨hr, hl, ⟨[], by rw [namesOf_noSlash ht hs]; rfl, ?_⟩, hn⟩
  rw [startOf, ha]
  exact walk_nil hd

/-- A name that the directory where relative paths start does not hold yet. -/
theorem isFree_name {tree : FileTree} {path : FilePath} (hr : refusal? path = none)
    (hs : '/' ∉ path.text) (hn : IsEntryName path.toString)
    (hd : tree.find? tree.current = some .directory)
    (hv : tree.find? (tree.current ++ [path.toString]) = none) : tree.IsFree path := by
  have hl := leads_name hr hs hn hd
  exact ⟨hl.noSlash, tree.current, path.toString, hl.locate_vacant hv⟩

end RequestScript.FileTree
