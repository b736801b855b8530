import Mathlib.Data.List.Infix
import RequestScript.Proofs.FileTree.Content

namespace RequestScript

/-- A list and the lists in front of its later members, the longest first. -/
def upwards {α : Type} (xs : List α) : List (List α) :=
  xs.inits.reverse

theorem mem_upwards {α : Type} {xs ys : List α} : ys ∈ upwards xs ↔ ys <+: xs :=
  List.mem_reverse.trans (List.mem_inits ys xs)

theorem upwards_concat {α : Type} (xs : List α) (x : α) :
    upwards (xs ++ [x]) = (xs ++ [x]) :: upwards xs := by
  unfold upwards
  rw [List.inits_append]
  simp

theorem upwards_eq_cons {α : Type} (xs : List α) :
    ∃ shorter, upwards xs = xs :: shorter ∧ ∀ ys ∈ shorter, ys.length < xs.length := by
  rcases List.eq_nil_or_concat' xs with rfl | ⟨front, last, rfl⟩
  · exact ⟨[], rfl, fun _ hm => absurd hm List.not_mem_nil⟩
  · refine ⟨upwards front, upwards_concat front last, fun ys hm => ?_⟩
    rw [List.length_append]
    exact Nat.lt_succ_of_le (mem_upwards.mp hm).length_le

theorem upwards_append {α : Type} (start xs : List α) :
    ∃ shorter, upwards (start ++ xs) = (upwards xs).map (start ++ ·) ++ shorter ∧
      ∀ ys ∈ shorter, ys.length < start.length := by
  induction xs using List.reverseRecOn with
  | nil =>
    obtain ⟨shorter, hs, hl⟩ := upwards_eq_cons start
    refine ⟨shorter, ?_, hl⟩
    rw [List.append_nil, hs]
    show _ = [start ++ []] ++ shorter
    rw [List.append_nil]
    rfl
  | append_singleton xs x ih =>
    obtain ⟨shorter, hs, hl⟩ := ih
    refine ⟨shorter, ?_, hl⟩
    rw [← List.append_assoc, upwards_concat, hs, upwards_concat, List.map_cons, List.append_assoc]
    rfl

namespace FilePath

/-- What holds of no text, and passes over a slash and over one more name, holds of every text. -/
theorem text_induction {motive : List Char → Prop} (hnil : motive [])
    (hslash : ∀ text, motive text → motive (text ++ ['/']))
    (hname : ∀ text front last, EndsIn text front last → motive front → motive text)
    (text : List Char) : motive text := by
  by_cases ht : text = []
  · rw [ht]
    exact hnil
  by_cases hs : text.getLast? = some '/'
  · obtain ⟨front, hf⟩ := List.getLast?_eq_some_iff.mp hs
    rw [hf]
    exact hslash front (text_induction hnil hslash hname front)
  · obtain ⟨front, last, he⟩ := exists_endsIn ht hs
    exact hname text front last he (text_induction hnil hslash hname front)
termination_by text.length
decreasing_by
  · rw [hf]
    simp
  · have hl := List.length_pos_iff.mpr he.ne_nil
    rw [he.whole, List.length_append]
    omega

end FilePath

namespace FileTree

/-- The names of a path that lead somewhere else. -/
def entryNames (path : FilePath) : List String :=
  (namesOf path).filter (· ≠ ".")

theorem entryNames_endsIn {path : FilePath} {front last : List Char}
    (h : FilePath.EndsIn path.text front last) :
    entryNames path = entryNames ⟨front⟩ ++ if last = ['.'] then [] else [String.ofList last] := by
  have hp : String.ofList last = "." ↔ last = ['.'] :=
    ⟨fun h => by simpa using congrArg String.toList h, fun h => by rw [h]⟩
  unfold entryNames
  rw [namesOf_endsIn h, List.filter_append]
  by_cases hl : last = ['.'] <;> simp [hl, hp]

theorem entryNames_nil : entryNames ⟨[]⟩ = [] := by
  simp [entryNames, namesOf_eq]

/-- The components of a path, latest first, lead to its places one above the other, and at the end
perhaps twice to the place where it starts. -/
theorem exists_map_components (text : List Char) : ∃ again, (again = [] ∨ again = [[]]) ∧
    (⟨text⟩ : FilePath).components.reverse.map (fun component => entryNames ⟨component.upTo⟩) ++
      [[]] = upwards (entryNames ⟨text⟩) ++ again := by
  induction text using FilePath.text_induction with
  | hnil => exact ⟨[], Or.inl rfl, by rw [entryNames_nil]; rfl⟩
  | hslash text ih =>
    rw [FilePath.components_slash, entryNames, namesOf_slash]
    exact ih
  | hname text front last he ih =>
    obtain ⟨again, ha, hc⟩ := ih
    have he' : entryNames ⟨text⟩ = entryNames ⟨front⟩ ++
        if last = ['.'] then [] else [String.ofList last] := entryNames_endsIn he
    by_cases hl : last = ['.']
    · rw [if_pos hl, List.append_nil] at he'
      subst hl
      by_cases hf : front = []
      · -- the path is a point, which is a component of its own
        obtain rfl : text = ['.'] := by rw [he.whole, hf]; rfl
        rw [hf, entryNames_nil] at he'
        refine ⟨[[]], Or.inr rfl, ?_⟩
        show [entryNames ⟨['.']⟩] ++ [[]] = _
        rw [he']
        rfl
      · have hc' : (⟨text⟩ : FilePath).components = (⟨front⟩ : FilePath).components := by
          have ht : text.reverse ≠ ['.'] := by
            rw [he.whole]
            simpa using hf
          rw [he.components_eq, FilePath.componentAt, if_pos (Or.inr ⟨rfl, ht⟩), List.append_nil]
        exact ⟨again, ha, by rw [hc', he', hc]⟩
    · rw [if_neg hl] at he'
      refine ⟨again, ha, ?_⟩
      rw [he', upwards_concat, he.components_of_ne_point hl, List.cons_append, ← hc, ← he']
      simp

theorem entryNames_base (path : FilePath) : entryNames path.base = [] := by
  unfold FilePath.base
  split
  · exact (congrArg (List.filter _) (namesOf_slash [])).trans entryNames_nil
  · exact entryNames_nil

/-- A path and those above it lead to places one above the other. -/
theorem map_entryNames_ancestors (path : FilePath) :
    ∃ again, (∀ names ∈ again, names ∈ upwards (entryNames path)) ∧
      (path :: path.ancestors).map entryNames = upwards (entryNames path) ++ again := by
  obtain ⟨again, ha, hc⟩ := exists_map_components path.text
  have hm : ∀ names ∈ again, names ∈ upwards (entryNames path) := by
    rcases ha with rfl | rfl
    · exact fun _ hm => absurd hm List.not_mem_nil
    · exact List.forall_mem_singleton.mpr (mem_upwards.mpr List.nil_prefix)
  refine ⟨again, hm, ?_⟩
  obtain ⟨shorter, hs, -⟩ := upwards_eq_cons (entryNames path)
  rw [hs, List.cons_append] at hc
  rw [hs, List.cons_append, List.map_cons]
  refine congrArg (List.cons (entryNames path)) ?_
  unfold FilePath.ancestors
  cases hr : path.components.reverse with
  | nil =>
    rw [hr] at hc
    exact (List.cons.inj hc).2
  | cons component above =>
    rw [hr] at hc
    rw [← (List.cons.inj hc).2]
    simp [entryNames_base]

theorem upTo_of_mem_components {text : List Char} {component : FilePath.Component}
    (h : component ∈ (⟨text⟩ : FilePath).components) :
    component.upTo <+: text ∧ component.upTo ≠ [] := by
  induction text using FilePath.text_induction with
  | hnil => exact absurd h List.not_mem_nil
  | hslash text ih =>
    rw [FilePath.components_slash] at h
    exact ⟨(ih h).1.trans (List.prefix_append _ _), (ih h).2⟩
  | hname text front last he ih =>
    rw [he.components_eq] at h
    rcases List.mem_append.mp h with h | h
    · have hp : front <+: text := by
        rw [he.whole]
        exact List.prefix_append _ _
      exact ⟨(ih h).1.trans hp, (ih h).2⟩
    · unfold FilePath.componentAt at h
      split at h
      next => exact absurd h List.not_mem_nil
      next =>
        obtain rfl := List.mem_singleton.mp h
        show text.reverse.reverse <+: text ∧ text.reverse.reverse ≠ []
        rw [List.reverse_reverse]
        refine ⟨List.prefix_rfl, ?_⟩
        rw [he.whole]
        exact List.append_ne_nil_of_right_ne_nil _ he.ne_nil

/-- The text of a path above another one is the start of its text. -/
theorem isPrefix_of_mem_ancestors {path above : FilePath} (h : above ∈ path :: path.ancestors) :
    above.text <+: path.text ∧ above.isAbsolute = path.isAbsolute := by
  rcases List.mem_cons.mp h with rfl | h
  · exact ⟨List.prefix_rfl, rfl⟩
  unfold FilePath.ancestors at h
  split at h
  next => exact absurd h List.not_mem_nil
  next component rest hr =>
    rcases List.mem_append.mp h with h | h
    · obtain ⟨other, ho, rfl⟩ := List.mem_map.mp h
      have hm : other ∈ path.components :=
        List.mem_reverse.mp (hr ▸ List.mem_cons_of_mem _ ho)
      obtain ⟨⟨rest, ht⟩, hn⟩ := upTo_of_mem_components hm
      refine ⟨⟨rest, ht⟩, ?_⟩
      unfold FilePath.isAbsolute
      rw [← ht, List.head?_append_of_ne_nil _ hn]
    · obtain rfl := List.mem_singleton.mp h
      unfold FilePath.base
      cases ha : path.isAbsolute with
      | false => exact ⟨List.nil_prefix, rfl⟩
      | true =>
        obtain ⟨rest, ht⟩ := List.head?_eq_some_iff.mp (eq_of_beq ha)
        exact ⟨⟨rest, ht.symm⟩, rfl⟩

theorem filter_cons_of_ne_point {name : String} (h : name ≠ ".") (rest : List String) :
    (name :: rest).filter (· ≠ ".") = name :: rest.filter (· ≠ ".") :=
  List.filter_cons_of_pos (decide_eq_true h)

/-- Names that lead through directories, each in the one before it. -/
structure Passes (tree : FileTree) (here : Location) (names : List String) : Prop where
  isEntryName : ∀ name ∈ names, IsEntryName name
  isDirectory : ∀ front, front <+: names → tree.find? (here ++ front) = some .directory

namespace Passes

variable {tree : FileTree} {here location : Location} {name : String} {names : List String}

theorem cons (hd : tree.find? here = some .directory) (hn : IsEntryName name)
    (h : tree.Passes (here ++ [name]) names) : tree.Passes here (name :: names) := by
  refine ⟨List.forall_mem_cons.mpr ⟨hn, h.isEntryName⟩, fun front hf => ?_⟩
  cases front with
  | nil => rwa [List.append_nil]
  | cons first front =>
    obtain ⟨rfl, hr⟩ := List.cons_prefix_cons.mp hf
    have hx := h.isDirectory front hr
    rwa [List.append_assoc] at hx

theorem tail (h : tree.Passes here (name :: names)) : tree.Passes (here ++ [name]) names := by
  refine ⟨(List.forall_mem_cons.mp h.isEntryName).2, fun front hf => ?_⟩
  rw [List.append_assoc]
  exact h.isDirectory (name :: front) (List.cons_prefix_cons.mpr ⟨rfl, hf⟩)

theorem here_eq (h : tree.Passes here names) : tree.find? here = some .directory := by
  have hd := h.isDirectory [] List.nil_prefix
  rwa [List.append_nil] at hd

theorem of_prefix {front : List String} (h : tree.Passes here names) (hf : front <+: names) :
    tree.Passes here front :=
  ⟨fun name hm => h.isEntryName name (hf.mem hm), fun other ho => h.isDirectory other (ho.trans hf)⟩

theorem walk (h : tree.Passes here (names.filter (· ≠ "."))) :
    tree.walk here names = .ok (.taken (here ++ names.filter (· ≠ ".")) .directory) := by
  induction names generalizing here with
  | nil =>
    rw [List.filter_nil, List.append_nil]
    exact walk_nil h.here_eq
  | cons name rest ih =>
    by_cases hn : name = "."
    · subst hn
      rw [walk_here rest h.here_eq]
      exact ih h
    · rw [filter_cons_of_ne_point hn] at h ⊢
      have hname := h.isEntryName name List.mem_cons_self
      rw [walk_into rest h.here_eq hname h.tail.here_eq, ih h.tail, List.append_assoc]
      rfl

end Passes

/-- Names that never go up lead to one directory below the other. -/
theorem passes_of_walk {tree : FileTree} {here location : Location} {names : List String}
    (h : tree.walk here names = .ok (.taken location .directory)) (hup : ".." ∉ names) :
    location = here ++ names.filter (· ≠ ".") ∧ tree.Passes here (names.filter (· ≠ ".")) := by
  induction names generalizing here with
  | nil =>
    obtain ⟨node, hp, hf⟩ := walk_nil_cases h
    cases hp
    refine ⟨(List.append_nil _).symm, fun _ hm => absurd hm List.not_mem_nil, fun front hx => ?_⟩
    rw [List.prefix_nil.mp hx, List.append_nil]
    exact hf
  | cons name rest ih =>
    obtain ⟨hname, hrest⟩ := not_or.mp (mt List.mem_cons.mpr hup)
    obtain ⟨hd, ⟨rfl, hr⟩ | ⟨rfl, -⟩ | ⟨hn, -, hr⟩ | ⟨-, -, -, hp⟩⟩ := walk_cons_cases h
    · exact ih hr hrest
    · exact absurd rfl hname
    · obtain ⟨rfl, hx⟩ := ih hr hrest
      rw [filter_cons_of_ne_point hn.notHere, List.append_assoc]
      exact ⟨rfl, hx.cons hd hn⟩
    · cases hp

theorem refusal?_eq_none_iff {path : FilePath} : refusal? path = none ↔
    '\x00' ∉ path.text ∧ path.text ≠ [] ∧ path.toString.utf8ByteSize ≤ maxPath := by
  unfold refusal?
  split
  next h => simpa using fun hn => absurd (List.contains_iff_mem.mp h) hn
  next h =>
    split
    next ht => simp [ht]
    next ht => split <;> simp_all

theorem endsInSlash_of_endsIn {path : FilePath} {front last : List Char}
    (h : FilePath.EndsIn path.text front last) : endsInSlash path = false := by
  cases hs : endsInSlash path with
  | false => rfl
  | true =>
    have hl := eq_of_beq hs
    rw [h.whole, List.getLast?_append_of_ne_nil _ h.ne_nil] at hl
    exact absurd (List.mem_of_getLast? hl) h.noSlash

/-- A name that a file can have in its directory. -/
structure IsFileName (name : String) : Prop extends IsEntryName name where
  noSlash : '/' ∉ name.toList
  ne_empty : name ≠ ""

namespace IsFileName

variable {name : String}

theorem isAbsolute_eq (h : IsFileName name) : (FilePath.ofString name).isAbsolute = false := by
  cases ha : (FilePath.ofString name).isAbsolute with
  | false => rfl
  | true => exact absurd (List.mem_of_head? (eq_of_beq ha)) h.noSlash

theorem join_text (h : IsFileName name) (path : FilePath) :
    (path.join (.ofString name)).text =
      path.text ++ (if path.text = [] ∨ path.text.getLast? = some '/' then [] else ['/']) ++
        name.toList := by
  unfold FilePath.join
  rw [h.isAbsolute_eq]
  by_cases ht : path.text = []
  · rw [if_pos (Or.inr ht), if_pos (Or.inl ht), ht]
    rfl
  by_cases hs : path.text.getLast? = some '/'
  · rw [if_neg (by simp [ht]), if_pos hs, if_pos (Or.inr hs), List.append_nil]
    rfl
  · rw [if_neg (by simp [ht]), if_neg hs, if_neg (not_or.mpr ⟨ht, hs⟩), List.append_assoc]
    rfl

theorem endsIn_join (h : IsFileName name) (path : FilePath) :
    ∃ front, FilePath.EndsIn (path.join (.ofString name)).text front name.toList ∧
      namesOf ⟨front⟩ = namesOf path := by
  have hn : name.toList ≠ [] := fun hn => h.ne_empty (String.toList_eq_nil_iff.mp hn)
  have ht := h.join_text path
  split at ht
  next hp =>
    rw [List.append_nil] at ht
    exact ⟨path.text, ⟨ht, hp, h.noSlash, hn⟩, rfl⟩
  next => exact ⟨path.text ++ ['/'], ⟨ht, Or.inr (by simp), h.noSlash, hn⟩, namesOf_slash _⟩

theorem isAbsolute_join (h : IsFileName name) (path : FilePath) :
    (path.join (.ofString name)).isAbsolute = path.isAbsolute := by
  by_cases ht : path.text = []
  · have hj : path.join (.ofString name) = .ofString name := by
      unfold FilePath.join
      rw [if_pos (Or.inr ht)]
    rw [hj, h.isAbsolute_eq]
    unfold FilePath.isAbsolute
    rw [ht]
    rfl
  · unfold FilePath.isAbsolute
    rw [h.join_text, List.append_assoc, List.head?_append_of_ne_nil _ ht]

/-- The text of a name in a directory has in it that of the name in any directory above. -/
theorem sublist_join (h : IsFileName name) {path above : FilePath} (hp : above.text <+: path.text) :
    (above.join (.ofString name)).text.Sublist (path.join (.ofString name)).text := by
  obtain ⟨rest, hr⟩ := hp
  rcases List.eq_nil_or_concat' rest with rfl | ⟨front, last, rfl⟩
  · obtain rfl : above = path := by
      obtain ⟨text⟩ := above
      rw [List.append_nil] at hr
      exact congrArg FilePath.mk hr
    exact List.Sublist.refl _
  rw [h.join_text, h.join_text, ← hr, List.append_assoc above.text (front ++ [last])]
  refine (List.Sublist.append_left ?_ _).append_right _
  split
  next => exact List.nil_sublist _
  next =>
    -- a slash behind the upper directory is there behind it in the lower path
    refine List.singleton_sublist.mpr (List.mem_append.mpr ?_)
    by_cases hl : last = '/'
    · exact Or.inl (by simp [hl])
    · exact Or.inr (by simp [hl])

theorem refusal?_join (h : IsFileName name) {path above : FilePath}
    (hp : above.text <+: path.text) (hr : refusal? (path.join (.ofString name)) = none) :
    refusal? (above.join (.ofString name)) = none := by
  have hs := h.sublist_join hp
  obtain ⟨hz, -, hm⟩ := refusal?_eq_none_iff.mp hr
  obtain ⟨front, he, -⟩ := h.endsIn_join above
  refine refusal?_eq_none_iff.mpr ⟨fun hc => hz (hs.mem hc), ?_, le_trans ?_ hm⟩
  · rw [he.whole]
    exact List.append_ne_nil_of_right_ne_nil _ he.ne_nil
  · rw [FilePath.toString, FilePath.toString, String.utf8ByteSize_ofList,
      String.utf8ByteSize_ofList]
    exact String.utf8Len_le_of_sublist hs

/-- A name in a directory leads to what the directory holds under it. -/
theorem leads_join (h : IsFileName name) {tree : FileTree} {path : FilePath} {location : Location}
    (hr : refusal? (path.join (.ofString name)) = none)
    (hw : tree.walk (tree.startOf path) (namesOf path) = .ok (.taken location .directory)) :
    tree.Leads (path.join (.ofString name)) location name := by
  obtain ⟨front, he, hf⟩ := h.endsIn_join path
  have hstart : tree.startOf (path.join (.ofString name)) = tree.startOf path := by
    rw [startOf, startOf, h.isAbsolute_join]
  refine ⟨hr, ?_, ⟨namesOf path, ?_, by rw [hstart]; exact hw⟩, h.toIsEntryName⟩
  · exact endsInSlash_of_endsIn he
  · rw [namesOf_endsIn he, hf, String.ofList_toList]

end IsFileName

/-- Whether a directory has a file of a name. -/
def hasFile (tree : FileTree) (name : String) (directory : Location) : Bool :=
  match tree.find? (directory ++ [name]) with
  | some (.file _) => true
  | _ => false

theorem hasFile_iff {tree : FileTree} {name : String} {directory : Location} :
    tree.hasFile name directory = true ↔
      ∃ content, tree.find? (directory ++ [name]) = some (.file content) := by
  unfold hasFile
  split
  next content h => simp [h]
  next h => simpa using h

theorem Leads.isFile_eq {tree : FileTree} {path : FilePath} {directory : Location} {name : String}
    (h : tree.Leads path directory name) : tree.isFile path = tree.hasFile name directory := by
  rw [Bool.eq_iff_iff, hasFile_iff, ← Bool.not_eq_false, isFile_eq_false_iff,
    Option.eq_none_iff_forall_ne_some]
  simp only [not_forall, not_not, content?_eq_some_iff]
  constructor
  · rintro ⟨content, location, hp, hf⟩
    rw [hp.unique h.points] at hf
    exact ⟨content, hf⟩
  · rintro ⟨content, hf⟩
    exact ⟨content, _, h.points, hf⟩

theorem passes_of_locate {tree : FileTree} {path : FilePath} {location : Location}
    (hl : tree.locate path = .ok (.taken location .directory)) (hup : ".." ∉ namesOf path) :
    location = tree.startOf path ++ entryNames path ∧
      tree.Passes (tree.startOf path) (entryNames path) :=
  passes_of_walk (walk_of_locate hl) hup

/-- A name in a directory above leads to what that directory holds under it. -/
theorem leads_ancestor {tree : FileTree} {start above : FilePath} {location : Location}
    {name : String} (hl : tree.locate start = .ok (.taken location .directory))
    (hup : ".." ∉ namesOf start) (hn : IsFileName name)
    (hr : refusal? (start.join (.ofString name)) = none) (ha : above ∈ start :: start.ancestors) :
    tree.Leads (above.join (.ofString name)) (tree.startOf start ++ entryNames above) name := by
  obtain ⟨hp, habs⟩ := isPrefix_of_mem_ancestors ha
  obtain ⟨-, hpass⟩ := passes_of_locate hl hup
  obtain ⟨again, hagain, hmap⟩ := map_entryNames_ancestors start
  have hm : entryNames above ∈ upwards (entryNames start) ++ again :=
    hmap ▸ List.mem_map_of_mem ha
  have hprefix : entryNames above <+: entryNames start :=
    mem_upwards.mp ((List.mem_append.mp hm).elim (fun hm => hm) (hagain _))
  have hstart : tree.startOf above = tree.startOf start := by
    rw [startOf, startOf, habs]
  refine hn.leads_join (hn.refusal?_join hp hr) ?_
  rw [hstart]
  exact (hpass.of_prefix hprefix).walk

end FileTree

end RequestScript
