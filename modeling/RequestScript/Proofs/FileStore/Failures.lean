import RequestScript.Proofs.FileStore.Changes

namespace RequestScript

namespace FaultyWorkspace

variable (host : FaultyWorkspace) (path : FilePath)

/-- Reading changes nothing but what is still to go wrong. -/
theorem respond_read :
    (host.respond (.read path)).1.toWorkspace = host.toWorkspace ∧
      ((host.respond (.read path)).2 = host.tree.read path ∨
        ∃ reason, (host.respond (.read path)).2 = .error (.other reason)) := by
  unfold respond
  cases host.faults.head?.join with
  | none => exact ⟨rfl, Or.inl rfl⟩
  | some fault => cases fault <;> exact ⟨rfl, Or.inr ⟨_, rfl⟩⟩

theorem textsIn_of_respond_read {held : Bindings String}
    (h : FileStore.textsOf path (host.respond (.read path)).2 = .ok held) :
    FileStore.textsIn host.tree path = .ok held := by
  rcases (host.respond_read path).2 with hr | ⟨reason, hr⟩
  · rw [hr] at h
    exact h
  · rw [hr] at h
    cases h

theorem run_texts : host.run (FileStore.texts path) =
    ((host.respond (.read path)).1, FileStore.textsOf path (host.respond (.read path)).2) := by
  rw [FileStore.texts_eq]
  rfl

theorem run_call_get (tag : List Char) (key : String) :
    host.run (FileStore.call ⟨path, true⟩ tag (.get key)) =
      ((host.respond (.read path)).1, ⟨path, true⟩,
        (FileStore.textsOf path (host.respond (.read path)).2).bind (FileStore.valueIn key)) := by
  rw [FileStore.call_get_eq]
  rfl

theorem trace_call_get (tag : List Char) (key : String) :
    host.trace (FileStore.call ⟨path, true⟩ tag (.get key)) =
      [(.read path, (host.respond (.read path)).1)] := by
  rw [FileStore.call_get_eq]
  rfl

theorem run_on (tag : List Char) (change : StoreChange) :
    host.run (change.on ⟨path, true⟩ tag) =
      (((host.respond (.read path)).1.run (change.carryOut path tag
          (FileStore.textsOf path (host.respond (.read path)).2))).1, ⟨path, true⟩,
        ((host.respond (.read path)).1.run (change.carryOut path tag
          (FileStore.textsOf path (host.respond (.read path)).2))).2) := by
  rw [StoreChange.on_eq]
  show (host.respond (.read path)).1.run (_ >>= _) = _
  rw [run_bind]
  rfl

theorem trace_on (tag : List Char) (change : StoreChange) :
    host.trace (change.on ⟨path, true⟩ tag) =
      (.read path, (host.respond (.read path)).1) ::
        (host.respond (.read path)).1.trace (change.carryOut path tag
          (FileStore.textsOf path (host.respond (.read path)).2)) := by
  rw [StoreChange.on_eq]
  show _ :: (host.respond (.read path)).1.trace (_ >>= _) = _
  rw [trace_bind]
  exact congrArg _ (List.append_nil _)

end FaultyWorkspace

namespace StoreChange

/-- A change of the file of a store is made as a whole or not at all: what its path holds after each
request, and how it ends. -/
structure AllOrNothing (tree : FileTree) (path draft : FilePath) (change : StoreChange)
    (trace : List (HostRequest × FaultyWorkspace))
    (result : FaultyWorkspace × Except StoreError Unit) : Prop where
  steps : ∀ step ∈ trace, step.2.tree.content? path = tree.content? path ∨
    ∃ held, FileStore.textsIn tree path = .ok held ∧
      step.2.tree.content? path = some (encodeText (StoreFile.print (change.apply held)))
  done : result.2 = .ok () → ∃ held, FileStore.textsIn tree path = .ok held ∧
    FileStore.textsIn result.1.tree path = .ok (change.apply held)
  failed : ∀ error, result.2 = .error error → result.1.tree = tree
  noDraft : result.1.tree.isFile draft = false

variable {path : FilePath} {tag : List Char} (host : FaultyWorkspace)

theorem allOrNothing_carryOut (change : StoreChange) (ht : '/' ∉ tag)
    (hn : host.tree.isFile (FileStore.draftOf path tag) = false)
    {texts : Except StoreError (Bindings String)}
    (hr : ∀ held, texts = .ok held → FileStore.textsIn host.tree path = .ok held) :
    change.AllOrNothing host.tree path (FileStore.draftOf path tag)
      (host.trace (change.carryOut path tag texts))
      (host.run (change.carryOut path tag texts)) := by
  cases texts with
  | error error => exact ⟨fun _ hs => (by cases hs), fun h => (by cases h), fun _ _ => rfl, hn⟩
  | ok held =>
    have hr := hr held rfl
    by_cases hi : change.isIdle held = true
    · rw [carryOut_of_isIdle hi]
      exact ⟨fun _ hs => (by cases hs), fun _ => ⟨held, hr, by rw [apply_of_isIdle hi]; exact hr⟩,
        fun _ _ => rfl, hn⟩
    have hx : '/' ∉ tag ++ '.' :: ['t', 'm', 'p'] := by simpa using ht
    have hl : '.' ∉ ['t', 'm', 'p'] := by decide
    obtain ⟨during, ends⟩ := host.ensures_replaceFile path (FileStore.draftOf path tag)
      (encodeText (StoreFile.print (change.apply held)))
    unfold carryOut
    simp only [if_neg hi]
    show change.AllOrNothing _ _ _ (host.trace (HostProgram.replaceFile path _ _ >>= _))
      (host.run (HostProgram.replaceFile path _ _ >>= _))
    rw [FaultyWorkspace.trace_bind, FaultyWorkspace.run_bind]
    have steps : ∀ step ∈ host.trace (HostProgram.replaceFile path (FileStore.draftOf path tag)
          (encodeText (StoreFile.print (change.apply held)))) ++ [],
        step.2.tree.content? path = host.tree.content? path ∨
          ∃ held, FileStore.textsIn host.tree path = .ok held ∧
            step.2.tree.content? path =
              some (encodeText (StoreFile.print (change.apply held))) := by
      intro step hs
      rw [List.append_nil] at hs
      rcases during step hs hn with (hu | ⟨content, hd⟩) | hm
      · exact Or.inl (by rw [hu])
      · exact Or.inl (hd.content? hx hl hn)
      · exact Or.inr ⟨held, hr, hm.content?⟩
    cases hw : host.run (HostProgram.replaceFile path (FileStore.draftOf path tag)
        (encodeText (StoreFile.print (change.apply held)))) with
    | mk later answer =>
      rw [hw] at ends
      cases answer with
      | ok value =>
        exact ⟨steps, fun _ => ⟨held, hr, FileStore.textsIn_of_content? ends.content?⟩,
          fun _ h => (by cases h), ends.isFile_draft hx hl hn⟩
      | error error =>
        have hsame := ends hn
        refine ⟨steps, fun h => (by cases h), fun _ _ => hsame, ?_⟩
        show later.tree.isFile _ = false
        rw [hsame]
        exact hn

theorem allOrNothing_on (change : StoreChange) (store : FileStore) (ht : '/' ∉ tag)
    (hn : host.tree.isFile (FileStore.draftOf store.path tag) = false) :
    change.AllOrNothing host.tree store.path (FileStore.draftOf store.path tag)
      (host.trace (change.on store tag))
      ((host.run (change.on store tag)).1, (host.run (change.on store tag)).2.2) := by
  obtain ⟨path, isOpen⟩ := store
  cases isOpen with
  | false =>
    rw [on_closed rfl]
    exact ⟨fun _ hs => (by cases hs), fun h => (by cases h), fun _ _ => rfl, hn⟩
  | true =>
    have hw := (host.respond_read path).1
    have htree : (host.respond (.read path)).1.tree = host.tree := by rw [hw]
    have hc := allOrNothing_carryOut (host.respond (.read path)).1 change ht
      (by rw [htree]; exact hn) fun held h => by
        rw [htree]
        exact host.textsIn_of_respond_read path h
    rw [htree] at hc
    rw [FaultyWorkspace.trace_on, FaultyWorkspace.run_on]
    refine ⟨fun step hs => ?_, hc.done, hc.failed, hc.noDraft⟩
    rcases List.mem_cons.mp hs with rfl | hs
    · exact Or.inl (by rw [htree])
    · exact hc.steps step hs

end StoreChange

namespace FileStore

variable (store : FileStore) (tag : List Char) (host : FaultyWorkspace)

theorem run_on_of_unreadable (change : StoreChange) {error : StoreError}
    (ho : store.isOpen = true) (hr : (host.run (texts store.path)).2 = .error error) :
    (host.trace (change.on store tag)).map Prod.fst = [.read store.path] ∧
      (host.run (change.on store tag)).2 = (store, .error error) := by
  obtain ⟨path, _⟩ := store
  cases ho
  rw [FaultyWorkspace.run_texts] at hr
  dsimp only at hr
  rw [FaultyWorkspace.trace_on, FaultyWorkspace.run_on, hr]
  exact ⟨rfl, rfl⟩

theorem run_delete_of_absent {key : String} {held : Bindings String} (ho : store.isOpen = true)
    (hr : (host.run (texts store.path)).2 = .ok held) (hk : held.find? key = none) :
    (host.trace (store.call tag (.delete key))).map Prod.fst = [.read store.path] ∧
      (host.run (store.call tag (.delete key))).2 = (store, .ok ()) ∧
      (host.run (store.call tag (.delete key))).1.tree = host.tree := by
  obtain ⟨path, _⟩ := store
  cases ho
  rw [FaultyWorkspace.run_texts] at hr
  dsimp only at hr
  have hi : (StoreChange.delete key).isIdle held = true := by
    simpa [StoreChange.isIdle, Bindings.contains] using hk
  show (host.trace ((StoreChange.delete key).on _ tag)).map Prod.fst = _ ∧
    (host.run ((StoreChange.delete key).on _ tag)).2 = _ ∧
    (host.run ((StoreChange.delete key).on _ tag)).1.tree = _
  rw [FaultyWorkspace.trace_on, FaultyWorkspace.run_on, hr, StoreChange.carryOut_of_isIdle hi]
  exact ⟨rfl, rfl, congrArg (fun workspace => workspace.tree) (host.respond_read path).1⟩

theorem call_get_keeps_tree (key : String) :
    (∀ step ∈ host.trace (store.call tag (.get key)), step.2.tree = host.tree) ∧
      (host.run (store.call tag (.get key))).1.tree = host.tree := by
  obtain ⟨path, isOpen⟩ := store
  cases isOpen with
  | false => exact ⟨fun _ hs => (by cases hs), rfl⟩
  | true =>
    have htree : (host.respond (.read path)).1.tree = host.tree := by
      rw [(host.respond_read path).1]
    rw [FaultyWorkspace.trace_call_get, FaultyWorkspace.run_call_get]
    refine ⟨fun step hs => ?_, htree⟩
    cases List.mem_singleton.mp hs
    exact htree

/-- A store in a file that is changed while requests go wrong: the file is that of before, to the
byte, or that of a change that was made. -/
theorem changes_all_or_nothing (ht : '/' ∉ tag)
    (hn : host.tree.isFile (draftOf store.path tag) = false) :
    (∀ change : StoreChange,
      change.AllOrNothing host.tree store.path (draftOf store.path tag)
        (host.trace (change.on store tag))
        ((host.run (change.on store tag)).1, (host.run (change.on store tag)).2.2)) ∧
    (∀ change : StoreChange, store.isOpen = false →
      host.trace (change.on store tag) = [] ∧
        host.run (change.on store tag) = (host, store, .error .closed)) ∧
    (∀ (change : StoreChange) (error : StoreError), store.isOpen = true →
      (host.run (texts store.path)).2 = .error error →
      (host.trace (change.on store tag)).map Prod.fst = [.read store.path] ∧
        (host.run (change.on store tag)).2 = (store, .error error)) ∧
    (∀ (key : String) (held : Bindings String), store.isOpen = true →
      (host.run (texts store.path)).2 = .ok held → held.find? key = none →
      (host.trace (store.call tag (.delete key))).map Prod.fst = [.read store.path] ∧
        (host.run (store.call tag (.delete key))).2 = (store, .ok ()) ∧
        (host.run (store.call tag (.delete key))).1.tree = host.tree) ∧
    ∀ key : String,
      (∀ step ∈ host.trace (store.call tag (.get key)), step.2.tree = host.tree) ∧
        (host.run (store.call tag (.get key))).1.tree = host.tree := by
  refine ⟨fun change => StoreChange.allOrNothing_on host change store ht hn,
    fun change hc => ?_, fun change error ho hr => run_on_of_unreadable store tag host change ho hr,
    fun key held ho hr hk => run_delete_of_absent store tag host ho hr hk,
    call_get_keeps_tree store tag host⟩
  rw [StoreChange.on_closed hc]
  exact ⟨rfl, rfl⟩

/-- A draft that has been created but cannot be filled is gone when the store has answered. -/
theorem put_cut_short :
    ((⟨⟨.ofDirectory "w", ⟨0, 0, by decide, by decide, by decide⟩⟩,
        [none, some (.cutShort "full" 0)]⟩ : FaultyWorkspace).run
      ((StoreChange.put "" [1]).on ⟨⟨['c']⟩, true⟩ ['a'])).2.2 = .error (.file (.other "full")) ∧
    ((⟨⟨.ofDirectory "w", ⟨0, 0, by decide, by decide, by decide⟩⟩,
        [none, some (.cutShort "full" 0)]⟩ : FaultyWorkspace).run
      ((StoreChange.put "" [1]).on ⟨⟨['c']⟩, true⟩ ['a'])).1.tree = .ofDirectory "w" := by
  have hd : draftOf ⟨['c']⟩ ['a'] = ⟨['c', '.', 'a', '.', 't', 'm', 'p']⟩ := by decide
  have hc : (FileTree.ofDirectory "w").Leads ⟨['c']⟩ ["w"] "c" :=
    FileTree.leads_name (by decide) (by decide) ⟨by decide, by decide, by decide⟩ rfl
  have ht : (FileTree.ofDirectory "w").Leads ⟨['c', '.', 'a', '.', 't', 'm', 'p']⟩ ["w"]
      "c.a.tmp" :=
    FileTree.leads_name (by decide) (by decide) ⟨by decide, by decide, by decide⟩ rfl
  have hn : (FileTree.ofDirectory "w").isFile (draftOf ⟨['c']⟩ ['a']) = false := by
    rw [hd, FileTree.isFile, FileTree.node?, ht.locate_vacant rfl]
  have hr : (FileTree.ofDirectory "w").read ⟨['c']⟩ = .error .notFound := hc.read_vacant rfl
  have h := changes_all_or_nothing ⟨⟨['c']⟩, true⟩ ['a']
    ⟨⟨.ofDirectory "w", ⟨0, 0, by decide, by decide, by decide⟩⟩,
      [none, some (.cutShort "full" 0)]⟩ (by decide) hn
  have hanswer : ((⟨⟨.ofDirectory "w", ⟨0, 0, by decide, by decide, by decide⟩⟩,
        [none, some (.cutShort "full" 0)]⟩ : FaultyWorkspace).run
      ((StoreChange.put "" [1]).on ⟨⟨['c']⟩, true⟩ ['a'])).2.2 =
        .error (.file (.other "full")) := by
    rw [FaultyWorkspace.run_on]
    show (FaultyWorkspace.run _ (StoreChange.carryOut _ _ _
      (textsOf _ ((FileTree.ofDirectory "w").read _)))).2 = _
    rw [hr]
    rfl
  exact ⟨hanswer, (h.1 _).failed _ hanswer⟩

end FileStore

end RequestScript
