import Mathlib.Data.List.Induction
import Mathlib.Logic.Function.Basic
import RequestScript.Proofs.FileStore.Image

namespace RequestScript

/-- A change asked of one of many stores that have the same file. -/
structure FileCall where
  store : Nat
  tag : List Char
  change : StoreChange

/-- A request of a call that has been answered, and what the call has then returned, if it was at
its end. -/
structure FileEvent where
  call : FileCall
  request : HostRequest
  reply : Option (Except StoreError Unit)

/-- The texts in the file, and those that each store has read there last. -/
structure Shown where
  texts : Bindings String
  seen : Nat → Bindings String

namespace FileEvent

def looks (event : FileEvent) : Prop :=
  ∃ path, event.request = .read path

def replaces (event : FileEvent) : Prop :=
  ∃ source target, event.request = .rename source target

/-- A look shows a store what is in the file; a replacement puts there what the store has been
shown, with its change. -/
def effect (shown : Shown) (event : FileEvent) : Shown :=
  match event.request with
  | .read _ => { shown with seen := Function.update shown.seen event.call.store shown.texts }
  | .rename _ _ => { shown with texts := event.call.change.apply (shown.seen event.call.store) }
  | _ => shown

/-- What is shown after some events, if every store has been shown `held` before. -/
def shownAfter (held : Bindings String) (log : List FileEvent) : Shown :=
  log.foldl effect ⟨held, fun _ => held⟩

/-- The calls that have come to their end, in the order of their ends. -/
def endedCalls (log : List FileEvent) : List FileCall :=
  (log.filter fun event => event.reply.isSome).map call

/-- Every event stands in a relation to those before it. -/
def Throughout (P : List FileEvent → FileEvent → Prop) (log : List FileEvent) : Prop :=
  ∀ before event after, log = before ++ event :: after → P before event

/-- The file has been replaced, and a store has not looked at it since. -/
def ReplacedSinceLook (log : List FileEvent) (store : Nat) : Prop :=
  ∃ before event after, log = before ++ event :: after ∧ event.replaces ∧
    ∀ later ∈ after, later.call.store = store → ¬ later.looks

/-- No call replaces the file after another replacement that it has not seen. -/
def NoneOverlaps (log : List FileEvent) : Prop :=
  Throughout (fun before event => event.replaces → ¬ ReplacedSinceLook before event.call.store) log

/-- An event ends its call if it replaces the file, or shows that there is nothing to change. -/
def Follows (held : Bindings String) (before : List FileEvent) (event : FileEvent) : Prop :=
  event.reply = none ∧ ¬ event.replaces ∨
    event.reply = some (.ok ()) ∧
      (event.replaces ∨ event.looks ∧
        event.call.change.isIdle (shownAfter held before).texts = true)

variable {held : Bindings String} {log : List FileEvent} {event : FileEvent} {shown : Shown}
  {store : Nat}

theorem not_replaces_of_looks (h : event.looks) : ¬ event.replaces := by
  obtain ⟨path, h⟩ := h
  rintro ⟨source, target, hr⟩
  rw [h] at hr
  cases hr

theorem effect_of_looks (h : event.looks) : effect shown event =
    { shown with seen := Function.update shown.seen event.call.store shown.texts } := by
  obtain ⟨path, h⟩ := h
  simp only [effect, h]

theorem effect_of_replaces (h : event.replaces) : effect shown event =
    { shown with texts := event.call.change.apply (shown.seen event.call.store) } := by
  obtain ⟨source, target, h⟩ := h
  simp only [effect, h]

theorem effect_of_neither (hl : ¬ event.looks) (hr : ¬ event.replaces) :
    effect shown event = shown := by
  unfold effect
  split
  case h_1 path h => exact absurd ⟨path, h⟩ hl
  case h_2 source target h => exact absurd ⟨source, target, h⟩ hr
  case h_3 => rfl

theorem texts_effect_of_not_replaces (h : ¬ event.replaces) :
    (effect shown event).texts = shown.texts := by
  by_cases hl : event.looks
  · rw [effect_of_looks hl]
  · rw [effect_of_neither hl h]

theorem seen_effect_of_not_looks (h : ¬ (event.call.store = store ∧ event.looks)) :
    (effect shown event).seen store = shown.seen store := by
  by_cases hl : event.looks
  · have hne : store ≠ event.call.store := fun he => h ⟨he.symm, hl⟩
    rw [effect_of_looks hl]
    exact Function.update_of_ne hne _ _
  · by_cases hr : event.replaces
    · rw [effect_of_replaces hr]
    · rw [effect_of_neither hl hr]

theorem shownAfter_snoc (held : Bindings String) (log : List FileEvent) (event : FileEvent) :
    shownAfter held (log ++ [event]) = effect (shownAfter held log) event :=
  List.foldl_append

theorem endedCalls_snoc (log : List FileEvent) (event : FileEvent) :
    endedCalls (log ++ [event]) =
      endedCalls log ++ if event.reply.isSome then [event.call] else [] := by
  unfold endedCalls
  cases hr : event.reply.isSome <;> simp [hr]

theorem append_eq_snoc_iff {before after : List FileEvent} {other : FileEvent} :
    log ++ [event] = before ++ other :: after ↔
      (before = log ∧ other = event ∧ after = []) ∨
        ∃ init, after = init ++ [event] ∧ log = before ++ other :: init := by
  constructor
  · intro h
    rcases List.eq_nil_or_concat' after with rfl | ⟨init, last, rfl⟩
    · obtain ⟨rfl, he⟩ := List.append_inj' h rfl
      exact Or.inl ⟨rfl, (List.singleton_inj.mp he).symm, rfl⟩
    · rw [← List.cons_append, ← List.append_assoc] at h
      obtain ⟨rfl, he⟩ := List.append_inj' h rfl
      exact Or.inr ⟨init, by rw [List.singleton_inj.mp he], rfl⟩
  · rintro (⟨rfl, rfl, rfl⟩ | ⟨init, rfl, rfl⟩)
    · rfl
    · simp

theorem throughout_nil (P : List FileEvent → FileEvent → Prop) : Throughout P [] :=
  fun _ _ _ h => by simp at h

theorem throughout_snoc {P : List FileEvent → FileEvent → Prop} :
    Throughout P (log ++ [event]) ↔ Throughout P log ∧ P log event := by
  constructor
  · intro h
    exact ⟨fun before other after hs =>
      h before other (after ++ [event]) (append_eq_snoc_iff.mpr (Or.inr ⟨after, rfl, hs⟩)),
      h log event [] rfl⟩
  · rintro ⟨h, hl⟩ before other after hs
    rcases append_eq_snoc_iff.mp hs with ⟨rfl, rfl, rfl⟩ | ⟨init, rfl, hi⟩
    · exact hl
    · exact h before other init hi

theorem replacedSinceLook_snoc : ReplacedSinceLook (log ++ [event]) store ↔
    event.replaces ∨
      ReplacedSinceLook log store ∧ ¬ (event.call.store = store ∧ event.looks) := by
  constructor
  · rintro ⟨before, other, after, hs, hr, hl⟩
    rcases append_eq_snoc_iff.mp hs with ⟨rfl, rfl, rfl⟩ | ⟨init, rfl, hi⟩
    · exact Or.inl hr
    · exact Or.inr ⟨⟨before, other, init, hi, hr, fun later hm => hl later (by simp [hm])⟩,
        fun h => hl event (by simp) h.1 h.2⟩
  · rintro (hr | ⟨⟨before, other, after, rfl, hr, hl⟩, hn⟩)
    · exact ⟨log, event, [], rfl, hr, by simp⟩
    · refine ⟨before, other, after ++ [event], by simp, hr, fun later hm hs hk => ?_⟩
      rcases List.mem_append.mp hm with hm | hm
      · exact hl later hm hs hk
      · cases List.mem_singleton.mp hm
        exact hn ⟨hs, hk⟩

/-- A store that has looked since the last replacement has seen what is in the file. -/
theorem seen_eq_texts (h : ¬ ReplacedSinceLook log store) :
    (shownAfter held log).seen store = (shownAfter held log).texts := by
  induction log using List.reverseRecOn with
  | nil => rfl
  | append_singleton log event ih =>
    rw [replacedSinceLook_snoc] at h
    obtain ⟨hr, hl⟩ := not_or.mp h
    rw [shownAfter_snoc, texts_effect_of_not_replaces hr]
    by_cases hk : event.call.store = store ∧ event.looks
    · rw [effect_of_looks hk.2, hk.1]
      exact Function.update_self _ _ _
    · rw [seen_effect_of_not_looks hk, ih fun hs => hl ⟨hs, hk⟩]

/-- Calls that do not overlap have the effect of their changes, in the order of their ends. -/
theorem texts_eq_applyAll (hc : Throughout (Follows held) log) (hn : NoneOverlaps log) :
    (shownAfter held log).texts =
      StoreChange.applyAll held ((endedCalls log).map FileCall.change) := by
  induction log using List.reverseRecOn with
  | nil => rfl
  | append_singleton log event ih =>
    obtain ⟨hc, hf⟩ := throughout_snoc.mp hc
    obtain ⟨hn, ho⟩ := throughout_snoc.mp hn
    have ih := ih hc hn
    rw [shownAfter_snoc, endedCalls_snoc, List.map_append]
    rcases hf with ⟨hr, hp⟩ | ⟨hr, hp | ⟨hl, hi⟩⟩
    · rw [texts_effect_of_not_replaces hp, ih]
      simp [hr]
    · rw [effect_of_replaces hp, seen_eq_texts (ho hp), ih]
      simp [hr, StoreChange.applyAll_snoc]
    · rw [texts_effect_of_not_replaces (not_replaces_of_looks hl)]
      simp [hr, StoreChange.applyAll_snoc, ← ih, StoreChange.apply_of_isIdle hi]

/-- What a put has left under its key stays there until a store replaces the file that has not
looked since, or changes that key. -/
theorem find?_shownAfter_put {before after : List FileEvent} {put : FileEvent} {key : String}
    {value : Bytes} (hp : put.replaces) (hcall : put.call.change = .put key value)
    (hkey : ∀ event ∈ after, event.replaces → event.call.change.key ≠ key)
    (hlook : Throughout (fun since event => event.replaces →
      ∃ look ∈ since, look.call.store = event.call.store ∧ look.looks) after) :
    (shownAfter held (before ++ put :: after)).texts.find? key =
      some (FileStore.valueText value) := by
  -- also every store that has looked since has seen it there
  suffices h : (shownAfter held (before ++ put :: after)).texts.find? key =
        some (FileStore.valueText value) ∧
      ∀ look ∈ after, look.looks →
        ((shownAfter held (before ++ put :: after)).seen look.call.store).find? key =
          some (FileStore.valueText value) from h.1
  induction after using List.reverseRecOn with
  | nil =>
    refine ⟨?_, by simp⟩
    rw [shownAfter_snoc, effect_of_replaces hp]
    dsimp only
    rw [StoreChange.find?_apply, hcall]
    exact if_pos rfl
  | append_singleton after event ih =>
    obtain ⟨hlook, ho⟩ := throughout_snoc.mp hlook
    obtain ⟨ht, hs⟩ := ih (fun other hm => hkey other (by simp [hm])) hlook
    rw [← List.cons_append, ← List.append_assoc, shownAfter_snoc]
    constructor
    · by_cases hr : event.replaces
      · obtain ⟨look, hm, hstore, hl⟩ := ho hr
        have hne : key ≠ event.call.change.key := (hkey event (by simp) hr).symm
        rw [effect_of_replaces hr]
        dsimp only
        rw [StoreChange.find?_apply, if_neg hne, ← hstore, hs look hm hl]
      · rw [texts_effect_of_not_replaces hr, ht]
    · intro look hm hl
      by_cases hk : event.call.store = look.call.store ∧ event.looks
      · rw [effect_of_looks hk.2, ← hk.1]
        dsimp only
        rw [Function.update_self, ht]
      · rw [seen_effect_of_not_looks hk]
        rcases List.mem_append.mp hm with hm | hm
        · exact hs look hm hl
        · cases List.mem_singleton.mp hm
          exact absurd ⟨rfl, hl⟩ hk

end FileEvent

end RequestScript
