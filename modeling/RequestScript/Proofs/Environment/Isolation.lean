import RequestScript.Proofs.Environment.Session

namespace RequestScript.Session

variable {ι : Type} {shared : Forest String} {session : Session ι} {request : ι}

/-- The shared scopes are as they were at the start, and each other scope belongs to the one request
that made it. -/
structure Separate (shared : Forest String) (session : Session ι) : Prop where
  ordered : session.forest.Ordered
  base : ∀ request, shared.Holds (session.base request)
  kept : ∀ handle, shared.Holds handle →
    session.forest.scopes[handle]? = shared.scopes[handle]?
  held : ∀ request, ∀ scope ∈ session.own request, session.forest.Holds scope
  fresh : ∀ request, ∀ scope ∈ session.own request, ¬ shared.Holds scope
  apart : ∀ request other, request ≠ other →
    ∀ scope ∈ session.own request, scope ∉ session.own other

theorem separate_start (ho : shared.Ordered) {base : ι → Handle}
    (hb : ∀ request, shared.Holds (base request)) : Separate shared (start shared base) where
  ordered := ho
  base := hb
  kept _ _ := rfl
  held _ _ hm := by cases hm
  fresh _ _ hm := by cases hm
  apart _ _ _ _ hm := by cases hm

namespace Separate

theorem holds_shared (h : Separate shared session) {handle : Handle} (hv : shared.Holds handle) :
    session.forest.Holds handle := by
  have hs : session.forest.scopes[handle]? = some shared.scopes[handle] :=
    (h.kept handle hv).trans (Array.getElem?_eq_getElem hv)
  exact (Array.getElem?_eq_some_iff.mp hs).1

theorem write (h : Separate shared session) {scope : Handle} (hs : scope ∈ session.own request)
    (name value : String) : Separate shared (session.write scope name value) where
  ordered := Forest.ordered_define h.ordered scope name value
  base := h.base
  kept handle hv := by
    have hne : scope ≠ handle := fun he => h.fresh request scope hs (he ▸ hv)
    exact (Forest.scopes_getElem?_define _ _ _ _ _).trans ((if_neg hne).trans (h.kept handle hv))
  held other own hm := (Forest.holds_define _ _ _ _).mpr (h.held other own hm)
  fresh := h.fresh
  apart := h.apart

variable [DecidableEq ι]

theorem make (h : Separate shared session) {parent : Handle} (hp : session.forest.Holds parent) :
    Separate shared (session.make request parent) where
  ordered := Forest.ordered_add h.ordered fun found hf => Option.some.inj hf ▸ hp
  base := h.base
  kept handle hv := by
    have hne : handle ≠ session.forest.scopes.size :=
      fun he => Forest.not_holds_size (he ▸ h.holds_shared hv)
    exact (Forest.scopes_getElem?_add _ _ _).trans ((if_neg hne).trans (h.kept handle hv))
  held other scope hm := by
    refine (Forest.holds_add _ _).mpr ?_
    exact (mem_own_make.mp hm).imp (h.held other scope) And.right
  fresh other scope hm hv := by
    rcases mem_own_make.mp hm with hm | ⟨-, rfl⟩
    · exact h.fresh other scope hm hv
    · exact Forest.not_holds_size (h.holds_shared hv)
  apart one other hne scope hm hn := by
    rcases mem_own_make.mp hm with hm | ⟨rfl, hs⟩
    · rcases mem_own_make.mp hn with hn | ⟨-, rfl⟩
      · exact h.apart one other hne scope hm hn
      · exact Forest.not_holds_size (h.held one _ hm)
    · rcases mem_own_make.mp hn with hn | ⟨ho, -⟩
      · exact Forest.not_holds_size (hs ▸ h.held other scope hn)
      · exact hne ho.symm

theorem changes (h : Separate shared session) {after : Session ι}
    (hc : Changes session request after) : Separate shared after := by
  cases hc with
  | nothing => exact h
  | scope hp =>
    rcases hp with rfl | hp
    · exact h.make (h.holds_shared (h.base request))
    · exact h.make (h.held request _ hp)
  | binding hs name value => exact h.write hs name value

theorem perform (h : Separate shared session) {call : RequestCall}
    (hs : session.Spares request call) : Separate shared (session.perform request call).1 :=
  h.changes (changes_perform h.ordered hs)

/-- Calls that spare the shared scopes leave them as they were. -/
theorem run {schedule : List (ι × RequestCall)} (h : Separate shared session)
    (hs : session.SparesAll schedule) : Separate shared (session.run schedule).1 := by
  induction schedule generalizing session with
  | nil => exact h
  | cons step rest ih => exact ih (h.perform hs.1) hs.2

end Separate

/-- A session in which one request is alone shows it the same as a session of all requests, where
its scopes go by other names. -/
structure Mirrors (shared : Forest String) (request : ι) (f : Handle → Handle)
    (alone whole : Session ι) : Prop where
  embeds : Forest.Embeds f alone.forest whole.forest
  ordered : alone.forest.Ordered
  base : whole.base request = alone.base request
  own : whole.own request = (alone.own request).map f
  fixes : ∀ handle, shared.Holds handle → f handle = handle
  held : ∀ handle, alone.forest.Holds handle ↔ shared.Holds handle ∨ handle ∈ alone.own request

namespace Mirrors

variable {f : Handle → Handle} {alone whole : Session ι}

theorem start (ho : shared.Ordered) (base : ι → Handle) (request : ι) :
    Mirrors shared request id (Session.start shared base) (Session.start shared base) where
  embeds := .refl shared
  ordered := ho
  base := rfl
  own := rfl
  fixes _ _ := rfl
  held _ := ⟨Or.inl, fun h => h.resolve_right fun hm => by cases hm⟩

theorem write (h : Mirrors shared request f alone whole) {scope : Handle}
    (hv : alone.forest.Holds scope) (name value : String) :
    Mirrors shared request f (alone.write scope name value)
      (whole.write (f scope) name value) where
  embeds := h.embeds.define hv name value
  ordered := Forest.ordered_define h.ordered scope name value
  base := h.base
  own := h.own
  fixes := h.fixes
  held handle := (Forest.holds_define _ _ _ _).trans (h.held handle)

theorem length_own (h : Mirrors shared request f alone whole) :
    (whole.own request).length = (alone.own request).length := by
  rw [h.own, List.length_map]

variable [DecidableEq ι]

theorem make (h : Mirrors shared request f alone whole) {parent : Handle}
    (hp : alone.forest.Holds parent) :
    Mirrors shared request (Function.update f alone.forest.scopes.size whole.forest.scopes.size)
      (alone.make request parent) (whole.make request (f parent)) where
  embeds := h.embeds.add h.ordered hp
  ordered := Forest.ordered_add h.ordered fun found hf => Option.some.inj hf ▸ hp
  base := h.base
  own := by
    have hold : (alone.own request).map (Function.update f alone.forest.scopes.size
        whole.forest.scopes.size) = whole.own request := by
      rw [h.own]
      refine List.map_congr_left fun scope hm => Function.update_of_ne (fun he => ?_) _ _
      exact Forest.not_holds_size (he ▸ (h.held scope).mpr (Or.inr hm))
    rw [own_make_self, own_make_self, List.map_append, hold, List.map_singleton,
      Function.update_self]
  fixes handle hv := by
    have hne : handle ≠ alone.forest.scopes.size :=
      fun he => Forest.not_holds_size (he ▸ (h.held handle).mpr (Or.inl hv))
    rw [Function.update_of_ne hne, h.fixes handle hv]
  held handle := by
    rw [mem_own_make, eq_self_iff_true, true_and, ← or_assoc, ← h.held handle]
    exact Forest.holds_add _ _

/-- What the other requests do is not seen in the scopes of this one. -/
theorem changes_of_ne (h : Mirrors shared request f alone whole) (hw : Separate shared whole)
    {other : ι} (hne : other ≠ request) {after : Session ι} (hc : Changes whole other after) :
    Mirrors shared request f alone after := by
  cases hc with
  | nothing => exact h
  | scope hp =>
    refine { h with embeds := h.embeds.add_outside _, own := ?_ }
    exact (own_make_of_ne (Ne.symm hne) _).trans h.own
  | @binding scope hs name value =>
    -- the scope is neither shared nor one of this request, so `f` leads nowhere to it
    refine { h with embeds := h.embeds.define_outside (fun handle hv he => ?_) name value }
    rcases (h.held handle).mp hv with hv | hm
    · rw [h.fixes handle hv] at he
      exact hw.fresh other scope hs (he ▸ hv)
    · have hm : f handle ∈ whole.own request := h.own ▸ List.mem_map_of_mem hm
      exact hw.apart other request hne scope hs (he ▸ hm)

/-- The request is given the same answer in both sessions, and they stay alike. -/
theorem act (h : Mirrors shared request f alone whole) (hw : Separate shared whole)
    {handle : Handle} (hm : handle ∈ alone.own request) (action : ScopeAction) :
    (whole.act request (f handle) action).2 = (alone.act request handle action).2 ∧
      ∃ g, Mirrors shared request g (alone.act request handle action).1
        (whole.act request (f handle) action).1 := by
  have hv : alone.forest.Holds handle := (h.held handle).mpr (Or.inr hm)
  have hview : whole.forest.view (f handle) = alone.forest.view handle :=
    h.embeds.view h.ordered hw.ordered hv
  cases action with
  | enclosed => exact ⟨congrArg RequestAnswer.made h.length_own, _, h.make hv⟩
  | define name value => exact ⟨rfl, f, h.write hv name value⟩
  | assign name value =>
    have hb := h.embeds.binder? h.ordered hw.ordered hv name
    cases hs : alone.forest.binder? handle name with
    | none =>
      rw [hs] at hb
      rw [act_assign_of_not_bound value hs, act_assign_of_not_bound value hb]
      exact ⟨rfl, f, h⟩
    | some scope =>
      rw [hs] at hb
      rw [act_assign_of_binder? value hs, act_assign_of_binder? value hb]
      exact ⟨rfl, f, h.write (Forest.binder?_holds hs).2 name value⟩
  | resolve name =>
    have hr : whole.forest.resolve (f handle) name = alone.forest.resolve handle name :=
      congrArg (Environment.resolve · name) hview
    exact ⟨congrArg RequestAnswer.resolved hr, f, h⟩
  | contains name =>
    have hc : whole.forest.contains (f handle) name = alone.forest.contains handle name :=
      congrArg (Environment.contains · name) hview
    exact ⟨congrArg RequestAnswer.contained hc, f, h⟩
  | identifiers =>
    have hi : whole.forest.identifiers (f handle) = alone.forest.identifiers handle :=
      congrArg Bindings.names (h.embeds.bindings handle hv)
    exact ⟨congrArg RequestAnswer.names hi, f, h⟩
  | expand word =>
    have he : word.expand (whole.forest.view (f handle)) =
        word.expand (alone.forest.view handle) :=
      congrArg word.expand hview
    exact ⟨congrArg RequestAnswer.expanded he, f, h⟩

theorem perform (h : Mirrors shared request f alone whole) (hw : Separate shared whole)
    (call : RequestCall) :
    (whole.perform request call).2 = (alone.perform request call).2 ∧
      ∃ g, Mirrors shared request g (alone.perform request call).1
        (whole.perform request call).1 := by
  cases call with
  | enter =>
    have hs : shared.Holds (alone.base request) := h.base ▸ hw.base request
    have hb : f (alone.base request) = whole.base request := (h.fixes _ hs).trans h.base.symm
    have hm := h.make ((h.held _).mpr (Or.inl hs))
    rw [hb] at hm
    exact ⟨congrArg RequestAnswer.made h.length_own, _, hm⟩
  | on number action =>
    have hn : (whole.own request)[number]? = (alone.own request)[number]?.map f := by
      rw [h.own, List.getElem?_map]
    cases ho : (alone.own request)[number]? with
    | none =>
      rw [ho] at hn
      rw [perform_on_none ho, perform_on_none hn]
      exact ⟨rfl, f, h⟩
    | some handle =>
      rw [ho] at hn
      rw [perform_on ho, perform_on hn]
      exact h.act hw (List.mem_of_getElem? ho) action

/-- The request is given the same answers as when only its own calls are made. -/
theorem run {schedule : List (ι × RequestCall)} (h : Mirrors shared request f alone whole)
    (hw : Separate shared whole) (hs : whole.SparesAll schedule) :
    answersTo request (whole.run schedule).2 =
      answersTo request (alone.run (callsOf request schedule)).2 := by
  induction schedule generalizing f alone whole with
  | nil => rfl
  | cons step rest ih =>
    obtain ⟨other, call⟩ := step
    by_cases ho : other = request
    · subst ho
      obtain ⟨ha, g, hg⟩ := h.perform hw call
      rw [callsOf_cons_self, answersTo_run_self, answersTo_run_self, ha,
        ih hg (hw.perform hs.1) hs.2]
    · have hm := h.changes_of_ne hw ho (changes_perform hw.ordered hs.1)
      rw [callsOf_cons_of_ne ho, answersTo_run_of_ne ho, ih hm (hw.perform hs.1) hs.2]

end Mirrors

/-- Requests that write no shared scope do not notice each other: whatever the order in which their
calls are made, each is given the answers that its own calls are given alone, and the shared scopes
are left as they were. -/
theorem requests_isolated {ι : Type} [DecidableEq ι] {shared : Forest String}
    (hr : Forest.Reached shared) {base : ι → Handle} (hb : ∀ request, shared.Holds (base request))
    {schedule : List (ι × RequestCall)} (hs : (Session.start shared base).SparesAll schedule) :
    (∀ request, answersTo request ((Session.start shared base).run schedule).2 =
      answersTo request ((Session.start shared base).run (callsOf request schedule)).2) ∧
    ∀ handle, shared.Holds handle →
      ((Session.start shared base).run schedule).1.forest.scopes[handle]? =
        shared.scopes[handle]? := by
  have hw : Separate shared (Session.start shared base) := separate_start hr.ordered hb
  exact ⟨fun request => (Mirrors.start hr.ordered base request).run hw hs, (hw.run hs).kept⟩

theorem two_requests_isolated :
    let shared : Forest String :=
      ((Forest.empty.perform .new).1.perform (.define 0 "host" "localhost")).1
    let schedule : List (Bool × RequestCall) :=
      [(true, .enter), (false, .enter), (true, .on 0 (.define "id" "1")),
        (false, .on 0 (.define "id" "2")), (true, .on 0 (.assign "id" "3")),
        (false, .on 0 (.expand (.compound [.reference "host", .reference "id"]))),
        (true, .on 0 .enclosed), (true, .on 1 (.resolve "id"))]
    let base (_ : Bool) : Handle := 0
    Forest.Reached shared ∧ shared.Holds 0 ∧ (Session.start shared base).SparesAll schedule ∧
      answersTo true ((Session.start shared base).run schedule).2 =
        answersTo true ((Session.start shared base).run (callsOf true schedule)).2 ∧
      ((Session.start shared base).run schedule).1.forest.scopes[0]? = shared.scopes[0]? := by
  intro shared schedule base
  have hr : Forest.Reached shared := by
    refine .call (.call .empty .new fun handle hh => by cases hh) (.define 0 _ _) fun handle hh => ?_
    cases hh
    exact Nat.zero_lt_one
  have hv : shared.Holds 0 := Nat.zero_lt_one
  have ha : (((((Session.start shared base).perform true .enter).1.perform false .enter).1.perform
      true (.on 0 (.define "id" "1"))).1.perform false (.on 0 (.define "id" "2"))).1.Spares
        true (.on 0 (.assign "id" "3")) := by
    intro handle hh scope hf
    cases hh
    cases hf with
    | here => exact List.mem_singleton_self _
    | above hb => exact absurd hb (by decide)
  have hs : (Session.start shared base).SparesAll schedule :=
    ⟨trivial, trivial, trivial, trivial, ha, trivial, trivial, trivial, trivial⟩
  have hb (request : Bool) : shared.Holds (base request) := hv
  have hi := requests_isolated hr hb hs
  exact ⟨hr, hv, hs, hi.1 true, hi.2 0 hv⟩

end RequestScript.Session
