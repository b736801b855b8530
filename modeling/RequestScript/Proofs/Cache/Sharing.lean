import Mathlib.Logic.Function.Basic
import RequestScript.Proofs.Cache.Steps
import RequestScript.Proofs.Program

namespace RequestScript

/-- What a client has been told for a call of its own, and what the call has then returned, if it
was at its end. -/
structure CacheEvent where
  client : Nat
  call : CacheCall
  told : CacheExchange
  reply : Option call.Answer

/-- A call under way, with what is left of it. -/
structure CacheTask where
  call : CacheCall
  left : CacheProgram call.Answer

/-- A cache in memory that many clients use at once, their calls, and what they have been told so
far. Only single requests are served one at a time. -/
structure SharedCache where
  cache : MemoryCache
  tasks : Nat → Option CacheTask
  log : List CacheEvent

namespace SharedCache

/-- What can happen next: a client without a call under way begins one, the next request of a
client is answered, or the clock moves. -/
inductive Turn where
  | begins (client : Nat) (call : CacheCall)
  | asks (client : Nat)
  | passes (now : Instant)

def ofCache (cache : MemoryCache) : SharedCache :=
  ⟨cache, fun _ => none, []⟩

def isIdle (shared : SharedCache) (client : Nat) : Bool :=
  (shared.tasks client).all fun task => task.left.value?.isSome

def take (shared : SharedCache) : Turn → SharedCache
  | .begins client call =>
    if shared.isIdle client then
      { shared with tasks := Function.update shared.tasks client (some ⟨call, call.program⟩) }
    else shared
  | .asks client =>
    match shared.tasks client with
    | some ⟨call, .ask request next⟩ =>
      let served := shared.cache.respond request
      { cache := served.1
        tasks := Function.update shared.tasks client (some ⟨call, next served.2⟩)
        log := shared.log ++ [⟨client, call, ⟨request, served.2⟩, (next served.2).value?⟩] }
    | _ => shared
  | .passes now => { shared with cache := { shared.cache with clock := now } }

def run (shared : SharedCache) (turns : List Turn) : SharedCache :=
  turns.foldl take shared

end SharedCache

namespace CacheEvent

def puts (key : String) (event : CacheEvent) : Prop :=
  ∃ value, event.told.1 = .store (.put key value)

def deletes (key : String) (event : CacheEvent) : Prop :=
  event.told.1 = .store (.delete key)

def looksAt (key : String) (event : CacheEvent) : Prop :=
  event.told.1 = .store (.get key)

/-- What is under a key after an event, if `held` was there before. -/
def effect (key : String) (held : Option Bytes) (event : CacheEvent) : Option Bytes :=
  match event.told.1 with
  | .store (.put other value) => if key = other then some value else held
  | .store (.delete other) => if key = other then none else held
  | _ => held

/-- What is under a key after some events. -/
def heldAfter (key : String) (held : Option Bytes) (log : List CacheEvent) : Option Bytes :=
  log.foldl (effect key) held

variable {key : String} {held : Option Bytes} {event : CacheEvent}

theorem heldAfter_snoc (key : String) (held : Option Bytes) (log : List CacheEvent)
    (event : CacheEvent) :
    heldAfter key held (log ++ [event]) = effect key (heldAfter key held log) event :=
  List.foldl_append

theorem heldAfter_cons (key : String) (held : Option Bytes) (event : CacheEvent)
    (rest : List CacheEvent) :
    heldAfter key held (event :: rest) = heldAfter key (effect key held event) rest :=
  rfl

theorem heldAfter_append_cons (key : String) (held : Option Bytes)
    (log rest : List CacheEvent) (event : CacheEvent) :
    heldAfter key held (log ++ event :: rest) =
      heldAfter key (effect key (heldAfter key held log) event) rest :=
  List.foldl_append

theorem effect_of_puts {value : Bytes} (h : event.told.1 = .store (.put key value)) :
    effect key held event = some value := by
  simp [effect, h]

theorem effect_of_looksAt (h : event.told.1 = .store (.get key)) :
    effect key held event = held := by
  simp [effect, h]

/-- An event that does not put anything under a key leaves there what it was, or deletes it. -/
theorem effect_of_not_puts (held : Option Bytes) (h : ¬ event.puts key) :
    effect key held event = held ∨ event.deletes key ∧ effect key held event = none := by
  unfold effect
  split
  case h_1 other value hr =>
    by_cases ho : key = other
    · subst ho
      exact absurd ⟨value, hr⟩ h
    · exact Or.inl (if_neg ho)
  case h_2 other hr =>
    by_cases ho : key = other
    · subst ho
      exact Or.inr ⟨hr, if_pos rfl⟩
    · exact Or.inl (if_neg ho)
  case h_3 => exact Or.inl rfl

theorem heldAfter_none {log : List CacheEvent} (h : ∀ event ∈ log, ¬ event.puts key) :
    heldAfter key none log = none := by
  induction log with
  | nil => rfl
  | cons event rest ih =>
    have he : effect key none event = none := by
      rcases effect_of_not_puts none (h event (by simp)) with he | ⟨-, he⟩ <;> exact he
    rw [heldAfter_cons, he, ih fun other ho => h other (List.mem_cons_of_mem _ ho)]

/-- While nothing is put under a key, what is there stays until it is deleted. -/
theorem heldAfter_or_deleted {log : List CacheEvent} (h : ∀ event ∈ log, ¬ event.puts key)
    (held : Option Bytes) : heldAfter key held log = held ∨
      ∃ before event after, log = before ++ event :: after ∧ event.deletes key ∧
        heldAfter key held before = held ∧ heldAfter key held log = none := by
  induction log with
  | nil => exact Or.inl rfl
  | cons event rest ih =>
    have hrest : ∀ other ∈ rest, ¬ other.puts key :=
      fun other ho => h other (List.mem_cons_of_mem _ ho)
    rw [heldAfter_cons]
    rcases effect_of_not_puts held (h event (by simp)) with he | ⟨hd, he⟩
    · rw [he]
      rcases ih hrest with hi | ⟨before, deletion, after, rfl, hd, hb, hn⟩
      · exact Or.inl hi
      · refine Or.inr ⟨event :: before, deletion, after, rfl, hd, ?_, hn⟩
        rw [heldAfter_cons, he, hb]
    · rw [he, heldAfter_none hrest]
      exact Or.inr ⟨[], event, rest, rfl, hd, rfl, rfl⟩

/-- What is still there at the end of a time was there all the time. -/
theorem heldAfter_of_append {first rest : List CacheEvent} {bytes : Bytes}
    (hp : ∀ event ∈ first ++ rest, ¬ event.puts key)
    (h : heldAfter key (some bytes) (first ++ rest) = some bytes) :
    heldAfter key (some bytes) first = some bytes := by
  have hfirst : ∀ event ∈ first, ¬ event.puts key :=
    fun event he => hp event (List.mem_append_left _ he)
  have hrest : ∀ event ∈ rest, ¬ event.puts key :=
    fun event he => hp event (List.mem_append_right _ he)
  rcases heldAfter_or_deleted hfirst (some bytes) with he | ⟨_, _, _, -, -, -, he⟩
  · exact he
  · have ha : heldAfter key (some bytes) (first ++ rest) =
        heldAfter key (heldAfter key (some bytes) first) rest := List.foldl_append
    rw [ha, he, heldAfter_none hrest] at h
    cases h

variable {log : List CacheEvent} {client : Nat} {call : CacheCall} {told : List CacheExchange}

/-- For the call that a client has under way it has been told this much, and nothing since. -/
def Underway (log : List CacheEvent) (client : Nat) (call : CacheCall)
    (told : List CacheExchange) : Prop :=
  ∃ earlier recent, log = earlier ++ recent ∧
    recent.filter (fun event => event.client = client) =
      told.map fun exchange => ⟨client, call, exchange, none⟩

theorem underway_nil (log : List CacheEvent) (client : Nat) (call : CacheCall) :
    Underway log client call [] :=
  ⟨log, [], by simp, rfl⟩

theorem Underway.snoc_other (h : Underway log client call told) (hne : event.client ≠ client) :
    Underway (log ++ [event]) client call told := by
  obtain ⟨earlier, recent, rfl, hr⟩ := h
  refine ⟨earlier, recent ++ [event], List.append_assoc .., ?_⟩
  rw [List.filter_append, hr]
  simp [hne]

theorem Underway.snoc_own (h : Underway log client call told) (exchange : CacheExchange) :
    Underway (log ++ [⟨client, call, exchange, none⟩]) client call (told ++ [exchange]) := by
  obtain ⟨earlier, recent, rfl, hr⟩ := h
  refine ⟨earlier, recent ++ [⟨client, call, exchange, none⟩], List.append_assoc .., ?_⟩
  rw [List.filter_append, hr]
  simp

/-- An event is the next step of its call, and a look at a key shows what is there, when all that
has happened before is in `log`. -/
structure Follows (values : Bindings Bytes) (log : List CacheEvent) (event : CacheEvent) :
    Prop where
  next : ∃ told next, Underway log event.client event.call told ∧
    Program.Leads event.call.program told (.ask event.told.1 next) ∧
    event.reply = (next event.told.2).value?
  shown : ∀ key answer, event.told = ⟨.store (.get key), answer⟩ →
    answer = .ok (heldAfter key (values.find? key) log)

/-- Every event follows those before it. -/
def Consistent (values : Bindings Bytes) (log : List CacheEvent) : Prop :=
  ∀ before event after, log = before ++ event :: after → event.Follows values before

variable {values : Bindings Bytes} {rest : List CacheEvent}

theorem Consistent.of_append (h : Consistent values (log ++ rest)) : Consistent values log :=
  fun before event after hs => h before event (after ++ rest) (by simp [hs])

theorem Consistent.snoc (h : Consistent values log) (hl : event.Follows values log) :
    Consistent values (log ++ [event]) := by
  intro before other after hs
  rcases List.eq_nil_or_concat after with rfl | ⟨init, last, rfl⟩
  · obtain ⟨rfl, he⟩ := List.append_inj' hs rfl
    cases he
    exact hl
  · rw [List.concat_eq_append, ← List.cons_append, ← List.append_assoc] at hs
    exact h before other init (List.append_inj' hs rfl).1

end CacheEvent

namespace MemoryCache

open CacheEvent

theorem respond_effect {cache : MemoryCache} {current : Bindings Bytes} {request : CacheRequest}
    (hs : cache.store = ⟨some current⟩) (hr : request ≠ .store .close) :
    ∃ after, (cache.respond request).1.store = ⟨some after⟩ ∧
      ∀ key event, event.told.1 = request →
        after.find? key = effect key (current.find? key) event := by
  obtain ⟨clock, store⟩ := cache
  subst hs
  match request, hr with
  | .now, _ => exact ⟨current, rfl, fun key event he => by simp [effect, he]⟩
  | .store (.get _), _ => exact ⟨current, rfl, fun key event he => by simp [effect, he]⟩
  | .store (.put other value), _ =>
    exact ⟨_, rfl, fun key event he => by simp [effect, he, Bindings.find?_insert]⟩
  | .store (.delete other), _ =>
    exact ⟨_, rfl, fun key event he => by simp [effect, he, Bindings.find?_erase]⟩

theorem respond_get {cache : MemoryCache} {current : Bindings Bytes} {key : String}
    {answer : Except StoreError (Option Bytes)} {request : CacheRequest}
    (hs : cache.store = ⟨some current⟩)
    (h : (⟨request, (cache.respond request).2⟩ : CacheExchange) = ⟨.store (.get key), answer⟩) :
    answer = .ok (current.find? key) := by
  obtain ⟨clock, store⟩ := cache
  subst hs
  cases h
  rfl

end MemoryCache

namespace SharedCache

open CacheEvent

variable {values : Bindings Bytes} {shared : SharedCache}

/-- What the events so far say of the store and of the calls under way is so. -/
structure Sound (values : Bindings Bytes) (shared : SharedCache) : Prop where
  stored : ∃ current, shared.cache.store = ⟨some current⟩ ∧
    ∀ key, current.find? key = heldAfter key (values.find? key) shared.log
  underway : ∀ client call request next,
    shared.tasks client = some ⟨call, .ask request next⟩ →
      ∃ told, Underway shared.log client call told ∧
        Program.Leads call.program told (.ask request next)
  consistent : Consistent values shared.log

theorem sound_ofCache (clock : Instant) (values : Bindings Bytes) :
    Sound values (ofCache ⟨clock, ⟨some values⟩⟩) where
  stored := ⟨values, rfl, fun _ => rfl⟩
  underway _ _ _ _ h := by cases h
  consistent _ _ _ h := by simp [ofCache] at h

theorem Sound.begins (h : Sound values shared) (client : Nat) (call : CacheCall) :
    Sound values (shared.take (.begins client call)) := by
  unfold take
  dsimp only
  split
  case isFalse => exact h
  refine ⟨h.stored, fun other made request next ht => ?_, h.consistent⟩
  by_cases ho : other = client
  · subst ho
    simp only [Function.update_self, Option.some.injEq, CacheTask.mk.injEq] at ht
    obtain ⟨rfl, hl⟩ := ht
    exact ⟨[], underway_nil shared.log other call, by rw [← eq_of_heq hl]; exact .start _⟩
  · exact h.underway other made request next (by simpa [Function.update_of_ne ho] using ht)

theorem Sound.passes (h : Sound values shared) (now : Instant) :
    Sound values (shared.take (.passes now)) :=
  ⟨h.stored, h.underway, h.consistent⟩

theorem Sound.asks (h : Sound values shared) (client : Nat) :
    Sound values (shared.take (.asks client)) := by
  unfold take
  dsimp only
  split
  case h_2 => exact h
  case h_1 call request next htask =>
  obtain ⟨current, hs, hc⟩ := h.stored
  obtain ⟨told, hu, hl⟩ := h.underway client call request next htask
  have hr : request ≠ .store .close := by
    rintro rfl
    exact CacheCall.not_leads_close hl
  obtain ⟨after, ha, he⟩ := MemoryCache.respond_effect hs hr
  refine ⟨⟨after, ha, fun key => ?_⟩, fun other made asked rest ht => ?_, ?_⟩
  · rw [heldAfter_snoc, ← hc key]
    exact he key _ rfl
  · -- the client whose turn it is has been told one thing more, to the others nothing has happened
    dsimp only at ht ⊢
    by_cases ho : other = client
    · subst ho
      simp only [Function.update_self, Option.some.injEq, CacheTask.mk.injEq] at ht
      obtain ⟨rfl, hn⟩ := ht
      have hn := eq_of_heq hn
      refine ⟨told ++ [⟨request, _⟩], ?_, hn ▸ hl.snoc _⟩
      rw [hn]
      exact hu.snoc_own _
    · rw [Function.update_of_ne ho] at ht
      obtain ⟨others, hw, hm⟩ := h.underway other made asked rest ht
      exact ⟨others, hw.snoc_other (Ne.symm ho), hm⟩
  · refine h.consistent.snoc ⟨⟨told, next, hu, hl, rfl⟩, fun key answer hg => ?_⟩
    rw [← hc key]
    exact MemoryCache.respond_get hs hg

theorem Sound.run (h : Sound values shared) (turns : List Turn) :
    Sound values (shared.run turns) := by
  induction turns generalizing shared with
  | nil => exact h
  | cons turn rest ih =>
    cases turn with
    | begins client call => exact ih (h.begins client call)
    | asks client => exact ih (h.asks client)
    | passes now => exact ih (h.passes now)

end SharedCache

end RequestScript
