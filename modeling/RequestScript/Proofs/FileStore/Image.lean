import RequestScript.Proofs.FileStore.Changes

namespace RequestScript

namespace StoreChange

/-- The texts of a store after some changes. -/
def applyAll (held : Bindings String) (changes : List StoreChange) : Bindings String :=
  changes.foldl (fun held change => change.apply held) held

theorem applyAll_snoc (held : Bindings String) (changes : List StoreChange)
    (change : StoreChange) :
    applyAll held (changes ++ [change]) = change.apply (applyAll held changes) :=
  List.foldl_append

/-- Whether one of some changes rewrites the file of the store. -/
def rewrites (held : Bindings String) : List StoreChange → Bool
  | [] => false
  | change :: rest => !change.isIdle held || rewrites (change.apply held) rest

/-- A store after some changes, each with the name of its draft, and their results. -/
def onAll (store : FileStore) :
    List (List Char × StoreChange) → HostProgram (FileStore × List (Except StoreError Unit))
  | [] => return (store, [])
  | (tag, change) :: rest => do
    let (next, result) ← change.on store tag
    let (last, results) ← onAll next rest
    return (last, result :: results)

/-- Some changes of the store at a path lead from one workspace to another, and none fails. -/
def Runs (path : FilePath) (start : Workspace) (changes : List (List Char × StoreChange))
    (later : Workspace) : Prop :=
  start.run (onAll ⟨path, true⟩ changes) = (later, ⟨path, true⟩, changes.map fun _ => .ok ())

variable {path : FilePath} {start later : Workspace} {held : Bindings String}
  {changes : List (List Char × StoreChange)}

theorem runs_nil : Runs path start [] later ↔ start = later := by
  show (start, _) = (later, _) ↔ _
  simp

theorem runs_cons {tag : List Char} {change : StoreChange} :
    Runs path start ((tag, change) :: changes) later ↔ ∃ between,
      start.run (change.on ⟨path, true⟩ tag) = (between, ⟨path, true⟩, .ok ()) ∧
        Runs path between changes later := by
  unfold Runs
  rw [onAll, Workspace.run_bind]
  cases hs : start.run (change.on ⟨path, true⟩ tag) with
  | mk between answer =>
    obtain ⟨store, result⟩ := answer
    obtain rfl : store = ⟨path, true⟩ := by
      have ho := (run_on start path tag change).symm.trans hs
      exact (congrArg (fun ran => ran.2.1) ho).symm
    rw [Workspace.run_bind]
    cases hr : between.run (onAll ⟨path, true⟩ changes) with
    | mk after answers =>
      obtain ⟨last, results⟩ := answers
      show (after, last, result :: results) = _ ↔ _
      constructor
      · intro h
        simp only [Prod.mk.injEq, List.map_cons, List.cons.injEq] at h
        obtain ⟨rfl, rfl, rfl, rfl⟩ := h
        exact ⟨between, rfl, hr⟩
      · rintro ⟨other, ho, hn⟩
        simp only [Prod.mk.injEq, true_and] at ho
        obtain ⟨rfl, rfl⟩ := ho
        rw [hr] at hn
        simp only [Prod.mk.injEq] at hn
        obtain ⟨rfl, rfl, rfl⟩ := hn
        rfl

/-- A change that succeeds leaves the file alone, or as it is printed. -/
theorem run_on_ok {tag : List Char} {change : StoreChange}
    (hr : FileStore.textsIn start.tree path = .ok held)
    (h : start.run (change.on ⟨path, true⟩ tag) = (later, ⟨path, true⟩, .ok ())) :
    (change.isIdle held = true ∧ later = start) ∨ (change.isIdle held = false ∧
      later.tree.content? path = some (encodeText (StoreFile.print (change.apply held)))) := by
  obtain ⟨-, hc⟩ := run_carryOut_of_run_on hr h
  cases hi : change.isIdle held with
  | true =>
    rw [carryOut_of_isIdle hi] at hc
    exact Or.inl ⟨rfl, (Prod.mk.inj hc).1.symm⟩
  | false => exact Or.inr ⟨rfl, content?_of_run_carryOut hi hc⟩

/-- Once the file has been written by the store, and after changes that rewrite it, it is what the
printer makes of the texts. -/
theorem content?_of_runs (h : Runs path start changes later)
    (hr : FileStore.textsIn start.tree path = .ok held)
    (hw : rewrites held (changes.map Prod.snd) = true ∨
      start.tree.content? path = some (encodeText (StoreFile.print held))) :
    later.tree.content? path =
      some (encodeText (StoreFile.print (applyAll held (changes.map Prod.snd)))) := by
  induction changes generalizing start held with
  | nil =>
    obtain rfl := runs_nil.mp h
    exact hw.resolve_left (by simp [rewrites])
  | cons first rest ih =>
    obtain ⟨tag, change⟩ := first
    obtain ⟨between, ho, hn⟩ := runs_cons.mp h
    have hk := (textsIn_of_run_on hr ho).2
    have step : rewrites (change.apply held) (rest.map Prod.snd) = true ∨
        between.tree.content? path =
          some (encodeText (StoreFile.print (change.apply held))) := by
      rcases run_on_ok hr ho with ⟨hi, rfl⟩ | ⟨_, hc⟩
      · rw [apply_of_isIdle hi]
        exact hw.imp_left fun hw => by simpa [rewrites, hi, apply_of_isIdle hi] using hw
      · exact Or.inr hc
    exact ih hn hk step

theorem textsIn_of_runs (h : Runs path start changes later)
    (hr : FileStore.textsIn start.tree path = .ok held) :
    FileStore.textsIn later.tree path = .ok (applyAll held (changes.map Prod.snd)) := by
  induction changes generalizing start held with
  | nil =>
    obtain rfl := runs_nil.mp h
    exact hr
  | cons first rest ih =>
    obtain ⟨tag, change⟩ := first
    obtain ⟨between, ho, hn⟩ := runs_cons.mp h
    exact ih hn (textsIn_of_run_on hr ho).2

/-- Where the store's path and the drafts are free, no change fails. -/
theorem exists_runs {base tree : FileTree} {values : Bindings Bytes} (clock : Instant)
    (h : FileStore.Holds base tree path values)
    (hd : ∀ change ∈ changes, base.IsFree (FileStore.draftOf path change.1)) :
    ∃ after, Runs path ⟨tree, clock⟩ changes ⟨after, clock⟩ := by
  induction changes generalizing tree values with
  | nil => exact ⟨tree, runs_nil.mpr rfl⟩
  | cons first rest ih =>
    obtain ⟨tag, change⟩ := first
    have hfree := hd _ List.mem_cons_self
    have step : ∃ between next, (⟨tree, clock⟩ : Workspace).run (change.on ⟨path, true⟩ tag) =
        (⟨between, clock⟩, ⟨path, true⟩, .ok ()) ∧ FileStore.Holds base between path next := by
      cases change with
      | put key value =>
        obtain ⟨between, hr, hn⟩ := FileStore.run_put h hfree clock key value
        exact ⟨between, _, FileStore.run_answer hr _, hn⟩
      | delete key =>
        obtain ⟨between, hr, hn⟩ := FileStore.run_delete h hfree clock key
        exact ⟨between, _, FileStore.run_answer hr _, hn⟩
    obtain ⟨between, next, hs, hn⟩ := step
    obtain ⟨after, ha⟩ := ih hn fun other ho => hd other (List.mem_cons_of_mem _ ho)
    exact ⟨after, runs_cons.mpr ⟨_, hs, ha⟩⟩

theorem applyAll_puts_comm (held : Bindings String) {key other : String} (hne : key ≠ other)
    (value value' : Bytes) :
    applyAll held [.put key value, .put other value'] =
      applyAll held [.put other value', .put key value] := by
  refine Bindings.ext_find? fun name => ?_
  show ((put other value').apply ((put key value).apply held)).find? name =
    ((put key value).apply ((put other value').apply held)).find? name
  rw [find?_apply, find?_apply, find?_apply, find?_apply]
  show (if name = other then _ else if name = key then _ else _) =
    if name = key then _ else if name = other then _ else _
  by_cases hn : name = other
  · subst hn
    rw [if_pos rfl, if_neg (Ne.symm hne), if_pos rfl]
  · rw [if_neg hn, if_neg hn]

theorem apply_put_of_find? {key : String} {value : Bytes}
    (h : held.find? key = some (FileStore.valueText value)) :
    (put key value).apply held = held := by
  refine Bindings.ext_find? fun name => ?_
  rw [find?_apply]
  split
  next hn =>
    subst hn
    exact h.symm
  next => rfl

/-- The file of a store is a function of the texts under its keys. However they have come about, in
whatever form the file was before, changes that rewrite it leave the same bytes, which are read as
these texts and are not blank: puts under two keys can change places, and what is put once more
changes nothing. -/
theorem bytes_depend_on_texts (hr : FileStore.textsIn start.tree path = .ok held) :
    (∀ changes later, Runs path start changes later →
      rewrites held (changes.map Prod.snd) = true →
      (∃ text, later.tree.content? path = some (utf8Bytes text) ∧
        StoreFile.read? text = some (applyAll held (changes.map Prod.snd)) ∧
        isBlank text.toList = false) ∧
      (∀ (path' : FilePath) (start' later' : Workspace) (held' : Bindings String) changes',
        FileStore.textsIn start'.tree path' = .ok held' → Runs path' start' changes' later' →
        rewrites held' (changes'.map Prod.snd) = true →
        (∀ key, (applyAll held (changes.map Prod.snd)).find? key =
          (applyAll held' (changes'.map Prod.snd)).find? key) →
        later'.tree.content? path' = later.tree.content? path) ∧
      ∀ tag key value again,
        (applyAll held (changes.map Prod.snd)).find? key = some (FileStore.valueText value) →
        Runs path later [(tag, .put key value)] again →
        again.tree.content? path = later.tree.content? path) ∧
    ∀ tag tag' other tag'' key value key' value' one two, key ≠ key' →
      Runs path start [(tag, .put key value), (tag', .put key' value')] one →
      Runs path start [(other, .put key' value'), (tag'', .put key value)] two →
      one.tree.content? path = two.tree.content? path := by
  refine ⟨fun changes later h hw => ?_, fun tag tag' other tag'' key value key' value' one two hne
    h₁ h₂ => ?_⟩
  · have hc := content?_of_runs h hr (Or.inl hw)
    refine ⟨⟨String.ofList (StoreFile.print (applyAll held (changes.map Prod.snd))), ?_,
      StoreFile.read?_print _, ?_⟩, fun path' start' later' held' changes' hr' h' hw' hm => ?_,
      fun tag key value again hf ha => ?_⟩
    · rw [hc, utf8Bytes, String.toList_ofList]
    · rw [String.toList_ofList, StoreFile.isBlank_print]
    · rw [content?_of_runs h' hr' (Or.inl hw'), hc, Bindings.ext_find? hm]
    · have hs := content?_of_runs ha (textsIn_of_runs h hr) (Or.inr hc)
      rw [hs, hc]
      exact congrArg (fun texts => some (encodeText (StoreFile.print texts))) (apply_put_of_find? hf)
  · have hs := applyAll_puts_comm held hne value value'
    rw [content?_of_runs h₁ hr (Or.inl rfl), content?_of_runs h₂ hr (Or.inl rfl)]
    exact congrArg (fun texts => some (encodeText (StoreFile.print texts))) hs

/-- Two puts in a directory without files, in both orders. -/
theorem bytes_depend_on_texts_two_puts :
    ∃ (start one two : Workspace),
      Runs ⟨['c']⟩ start [(['a'], .put "k" [1]), (['a'], .put "" [])] one ∧
      Runs ⟨['c']⟩ start [(['a'], .put "" []), (['a'], .put "k" [1])] two ∧
      one.tree.content? ⟨['c']⟩ = two.tree.content? ⟨['c']⟩ ∧
      ∃ text, two.tree.content? ⟨['c']⟩ = some (utf8Bytes text) ∧ isBlank text.toList = false := by
  have hd : FileStore.draftOf ⟨['c']⟩ ['a'] = ⟨['c', '.', 'a', '.', 't', 'm', 'p']⟩ := by decide
  have hf : (FileTree.ofDirectory "w").IsFree ⟨['c']⟩ :=
    FileTree.isFree_name (by decide) (by decide) ⟨by decide, by decide, by decide⟩ rfl rfl
  have ht : (FileTree.ofDirectory "w").IsFree ⟨['c', '.', 'a', '.', 't', 'm', 'p']⟩ :=
    FileTree.isFree_name (by decide) (by decide) ⟨by decide, by decide, by decide⟩ rfl rfl
  let clock : Instant := ⟨0, 0, by decide, by decide, by decide⟩
  have hh := FileStore.holds_empty hf
  have hruns (first second : StoreChange) : ∃ after, Runs ⟨['c']⟩ ⟨.ofDirectory "w", clock⟩
      [(['a'], first), (['a'], second)] ⟨after, clock⟩ := by
    refine exists_runs clock hh ?_
    simp only [List.forall_mem_cons, hd]
    exact ⟨ht, ht, fun _ hm => absurd hm List.not_mem_nil⟩
  obtain ⟨one, h₁⟩ := hruns (.put "k" [1]) (.put "" [])
  obtain ⟨two, h₂⟩ := hruns (.put "" []) (.put "k" [1])
  have h := @bytes_depend_on_texts ⟨['c']⟩ ⟨.ofDirectory "w", clock⟩ _
    (FileStore.textsIn_of_holds hh)
  obtain ⟨⟨text, hc, -, hb⟩, -⟩ := h.1 _ _ h₂ rfl
  exact ⟨_, _, _, h₁, h₂, h.2 _ _ _ _ _ _ _ _ _ _ (by decide) h₁ h₂, text, hc, hb⟩

end StoreChange

end RequestScript
