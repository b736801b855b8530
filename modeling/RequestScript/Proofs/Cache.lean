import RequestScript.Cache
import RequestScript.Proofs.CacheEntry

namespace RequestScript

/-- What can be asked of a cache. -/
inductive CacheCall where
  | get (key : String) (ttl : Nat)
  | put (key : String) (data : Bytes)
deriving DecidableEq

namespace CacheCall

def key : CacheCall → String
  | get key _ => key
  | put key _ => key

def Answer : CacheCall → Type
  | get _ _ => Except CacheError Bytes
  | put _ _ => Except CacheError Unit

def program : (call : CacheCall) → CacheProgram call.Answer
  | .get key ttl => Cache.get key ttl
  | .put key data => Cache.put key data

end CacheCall

/-- A call together with what a cache has answered. -/
abbrev CacheReply := (call : CacheCall) × call.Answer

def CacheReply.storeError? : CacheReply → Option StoreError
  | ⟨.get _ _, .error (.store error)⟩ => some error
  | ⟨.put _ _, .error (.store error)⟩ => some error
  | _ => none

/-- A store in memory after some calls on a cache over it, each made at its own time, and the
replies. -/
def MemoryStore.serveAll (store : MemoryStore) :
    List (Instant × CacheCall) → MemoryStore × List CacheReply
  | [] => (store, [])
  | (now, call) :: rest =>
    let (after, answer) := (⟨now, store⟩ : MemoryCache).run call.program
    let (last, replies) := after.store.serveAll rest
    (last, ⟨call, answer⟩ :: replies)

/-- The nanoseconds from one instant to another, below zero if the other comes first. -/
def Instant.difference (earlier later : Instant) : Int :=
  (later.seconds - earlier.seconds + leapBetween earlier later) * 1000000000 +
    (later.nanos - earlier.nanos)

/-- The nanoseconds that pass from one instant to another, with a leap second in which the earlier of
them lies. A `difference` counts this only before a later time of day, so not at the end of a day. -/
def Instant.passed (earlier later : Instant) : Int :=
  (later.seconds - earlier.seconds +
      (if earlier.seconds < later.seconds ∧ earlier.isLeap then 1
        else if later.seconds < earlier.seconds ∧ later.isLeap then -1 else 0)) * 1000000000 +
    (later.nanos - earlier.nanos)

theorem Instant.difference_eq_passed {earlier later : Instant} (he : earlier.isLeap = false)
    (hl : later.isLeap = false) : earlier.difference later = earlier.passed later := by
  simp [difference, passed, leapBetween, he, hl]

/-- Data under keys, each with the time at which they were put there. -/
abbrev DatedMap := String → Option (Bytes × Instant)

namespace CacheCall

/-- What a call at a given time makes of a map, and its answer. What is put there at the time `now` is
kept with the time `stamp now`, and `between` says how long ago that was. -/
def apply (stamp : Instant → Instant) (between : Instant → Instant → Int) (held : DatedMap)
    (now : Instant) : (call : CacheCall) → DatedMap × call.Answer
  | .put key data =>
    (fun other => if other = key then some (data, stamp now) else held other, .ok ())
  | .get key ttl =>
    match held key with
    | some (data, storedAt) =>
      if max 0 (between storedAt now) < (ttl : Int) then (held, .ok data)
      else (fun other => if other = key then none else held other, .error .miss)
    | none => (held, .error .miss)

def applyAll (stamp : Instant → Instant) (between : Instant → Instant → Int) (held : DatedMap) :
    List (Instant × CacheCall) → DatedMap × List CacheReply
  | [] => (held, [])
  | (now, call) :: rest =>
    let (after, answer) := call.apply stamp between held now
    let (last, replies) := applyAll stamp between after rest
    (last, ⟨call, answer⟩ :: replies)

variable {stamp stamp' : Instant → Instant} {between between' : Instant → Instant → Int}
  {held : DatedMap} {calls : List (Instant × CacheCall)}

/-- What a `get` can do: it finds nothing, or something that is young enough, or something too old. -/
theorem apply_get (stamp : Instant → Instant) (between : Instant → Instant → Int) (held : DatedMap)
    (now : Instant) (key : String) (ttl : Nat) :
    (held key = none ∧ (get key ttl).apply stamp between held now = (held, .error .miss)) ∨
    ∃ data storedAt, held key = some (data, storedAt) ∧
      ((max 0 (between storedAt now) < (ttl : Int) ∧
          (get key ttl).apply stamp between held now = (held, .ok data)) ∨
        (¬ max 0 (between storedAt now) < (ttl : Int) ∧
          (get key ttl).apply stamp between held now =
            (fun other => if other = key then none else held other, .error .miss))) := by
  cases hk : held key with
  | none => exact Or.inl ⟨rfl, by simp only [apply, hk]⟩
  | some dated =>
    refine Or.inr ⟨dated.1, dated.2, rfl, ?_⟩
    by_cases hf : max 0 (between dated.2 now) < (ttl : Int)
    · exact Or.inl ⟨hf, by simp only [apply, hk, if_pos hf]⟩
    · exact Or.inr ⟨hf, by simp only [apply, hk, if_neg hf]⟩

theorem apply_of_ne {now : Instant} {call : CacheCall} {key : String} (h : key ≠ call.key) :
    (call.apply stamp between held now).1 key = held key := by
  cases call with
  | put own data => exact if_neg h
  | get own ttl =>
    obtain ⟨-, he⟩ | ⟨data, storedAt, -, ⟨-, he⟩ | ⟨-, he⟩⟩ := apply_get stamp between held now own ttl
    · rw [he]
    · rw [he]
    · rw [he]
      exact if_neg h

theorem storeError?_apply (held : DatedMap) (now : Instant) (call : CacheCall) :
    CacheReply.storeError? ⟨call, (call.apply stamp between held now).2⟩ = none := by
  cases call with
  | put key data => rfl
  | get key ttl =>
    obtain ⟨-, he⟩ | ⟨data, storedAt, -, ⟨-, he⟩ | ⟨-, he⟩⟩ := apply_get stamp between held now key ttl
    · rw [he]
      rfl
    · rw [he]
      rfl
    · rw [he]
      rfl

theorem storeError?_applyAll {reply : CacheReply}
    (h : reply ∈ (applyAll stamp between held calls).2) : reply.storeError? = none := by
  induction calls generalizing held with
  | nil => cases h
  | cons first rest ih =>
    rcases List.mem_cons.mp h with rfl | h
    · exact storeError?_apply held first.1 first.2
    · exact ih h

/-- Two ways to keep and to compare times come to the same for a call if they do for its time and for
the times that are kept. -/
theorem apply_congr {Kept : Instant → Prop} {now : Instant} {call : CacheCall}
    (hh : ∀ key, ∀ dated ∈ held key, Kept dated.2)
    (hp : ∀ key data, call = .put key data → stamp now = stamp' now ∧ Kept (stamp now))
    (hg : ∀ key ttl storedAt, call = .get key ttl → Kept storedAt →
      between storedAt now = between' storedAt now) :
    call.apply stamp between held now = call.apply stamp' between' held now ∧
      ∀ key, ∀ dated ∈ (call.apply stamp between held now).1 key, Kept dated.2 := by
  cases call with
  | put own data =>
    obtain ⟨hs, hk⟩ := hp own data rfl
    refine ⟨by simp only [apply, hs], fun key dated hd => ?_⟩
    simp only [apply] at hd
    split at hd
    · rw [← Option.mem_some_iff.mp hd]
      exact hk
    · exact hh key dated hd
  | get own ttl =>
    have he : (get own ttl).apply stamp between held now =
        (get own ttl).apply stamp' between' held now := by
      cases ho : held own with
      | none => simp only [apply, ho]
      | some dated =>
        have hb := hg own ttl dated.2 rfl (hh own dated ho)
        simp only [apply, ho, hb]
    refine ⟨he, fun key dated hd => ?_⟩
    obtain ⟨-, ha⟩ | ⟨data, storedAt, -, ⟨-, ha⟩ | ⟨-, ha⟩⟩ := apply_get stamp between held now own ttl
    · rw [ha] at hd
      exact hh key dated hd
    · rw [ha] at hd
      exact hh key dated hd
    · rw [ha] at hd
      dsimp only at hd
      split at hd
      · cases hd
      · exact hh key dated hd

theorem applyAll_congr (Kept : Instant → Prop) (hh : ∀ key, ∀ dated ∈ held key, Kept dated.2)
    (hp : ∀ now key data, (now, CacheCall.put key data) ∈ calls →
      stamp now = stamp' now ∧ Kept (stamp now))
    (hg : ∀ now key ttl storedAt, (now, CacheCall.get key ttl) ∈ calls → Kept storedAt →
      between storedAt now = between' storedAt now) :
    applyAll stamp between held calls = applyAll stamp' between' held calls := by
  induction calls generalizing held with
  | nil => rfl
  | cons first rest ih =>
    obtain ⟨now, call⟩ := first
    obtain ⟨he, hk⟩ := apply_congr hh (fun key data hc => hp now key data (hc ▸ List.mem_cons_self))
      fun key ttl storedAt hc => hg now key ttl storedAt (hc ▸ List.mem_cons_self)
    have hrest := ih hk (fun now key data hm => hp now key data (List.mem_cons_of_mem _ hm))
      fun now key ttl storedAt hm => hg now key ttl storedAt (List.mem_cons_of_mem _ hm)
    simp only [applyAll]
    rw [hrest, he]

end CacheCall

namespace MemoryCache

/-- The values of a store are the entries that a map stands for, whose times are read back. -/
def Stores (values : Bindings Bytes) (held : DatedMap) : Prop :=
  ∀ key, values.find? key =
      ((held key).map fun dated => (CacheEntry.ofData dated.1 dated.2).encode) ∧
    ∀ dated ∈ held key, dated.2.IsCanonical

theorem run_bind {α β : Type} (cache : MemoryCache) (program : CacheProgram α)
    (next : α → CacheProgram β) :
    cache.run (program >>= next) = (cache.run program).1.run (next (cache.run program).2) :=
  Program.run_bind respond cache program next

variable {values : Bindings Bytes} {held : DatedMap}

/-- A look at a key reads what is stored under it as an entry. -/
theorem run_peek_eq (values : Bindings Bytes) (now : Instant) (key : String) :
    (⟨now, ⟨some values⟩⟩ : MemoryCache).run (Cache.peek key) =
      (⟨now, ⟨some values⟩⟩, .ok ((values.find? key).bind CacheEntry.decode?)) := by
  have hg : (⟨now, ⟨some values⟩⟩ : MemoryCache).run (Cache.storeGet key) =
      (⟨now, ⟨some values⟩⟩, .ok (values.find? key)) := rfl
  unfold Cache.peek
  rw [run_bind, hg]
  cases values.find? key with
  | none => rfl
  | some bytes => rfl

theorem run_peek (h : Stores values held) (now : Instant) (key : String) :
    (⟨now, ⟨some values⟩⟩ : MemoryCache).run (Cache.peek key) = (⟨now, ⟨some values⟩⟩,
      .ok ((held key).map fun dated => CacheEntry.ofData dated.1 dated.2)) := by
  obtain ⟨hv, hc⟩ := h key
  rw [run_peek_eq, hv]
  cases hk : held key with
  | none => rfl
  | some dated =>
    rw [hk] at hc
    rw [Option.map_some, Option.bind_some, CacheEntry.decode?_encode, Option.map_some,
      CacheEntry.canonical_eq_self_iff.mpr (hc dated rfl)]

theorem stores_insert (h : Stores values held) (key : String) (data : Bytes) (now : Instant) :
    Stores (values.insert key (CacheEntry.ofData data now).encode)
      (fun other => if other = key then some (data, now.canonical) else held other) := by
  intro other
  rw [Bindings.find?_insert, ← CacheEntry.encode_canonical]
  by_cases ho : other = key
  · simp only [if_pos ho, Option.map_some]
    refine ⟨rfl, fun dated hd => ?_⟩
    obtain rfl := Option.mem_some_iff.mp hd
    exact now.isCanonical_canonical
  · simpa only [if_neg ho] using h other

theorem stores_erase (h : Stores values held) (key : String) :
    Stores (values.erase key) (fun other => if other = key then none else held other) := by
  intro other
  rw [Bindings.find?_erase]
  by_cases ho : other = key
  · simp only [if_pos ho, Option.map_none, true_and]
    exact fun dated hd => by cases hd
  · simpa only [if_neg ho] using h other

theorem le_age_iff {data : Bytes} {storedAt now : Instant} {ttl : Nat} :
    ttl ≤ (CacheEntry.ofData data storedAt).age now ↔
      ¬ max 0 (storedAt.difference now) < (ttl : Int) := by
  have ha : (CacheEntry.ofData data storedAt).age now = (storedAt.difference now).toNat := rfl
  rw [ha]
  omega

theorem run_get_none (h : Stores values held) (now : Instant) {key : String} (ttl : Nat)
    (hk : held key = none) : (⟨now, ⟨some values⟩⟩ : MemoryCache).run (Cache.get key ttl) =
      (⟨now, ⟨some values⟩⟩, .error .miss) := by
  unfold Cache.get
  rw [run_bind, run_peek h, hk]
  rfl

theorem run_get_some (h : Stores values held) (now : Instant) {key : String} (ttl : Nat)
    {data : Bytes} {storedAt : Instant} (hk : held key = some (data, storedAt)) :
    (⟨now, ⟨some values⟩⟩ : MemoryCache).run (Cache.get key ttl) =
      if max 0 (storedAt.difference now) < (ttl : Int) then (⟨now, ⟨some values⟩⟩, .ok data)
      else (⟨now, ⟨some (values.erase key)⟩⟩, .error .miss) := by
  have hn : (⟨now, ⟨some values⟩⟩ : MemoryCache).run Cache.now = (⟨now, ⟨some values⟩⟩, now) := rfl
  unfold Cache.get
  rw [run_bind, run_peek h, hk]
  simp only [Option.map_some]
  rw [run_bind, hn]
  by_cases hf : max 0 (storedAt.difference now) < (ttl : Int)
  · rw [if_pos hf, if_neg (mt le_age_iff.mp (not_not_intro hf))]
    rfl
  · rw [if_neg hf, if_pos (le_age_iff.mpr hf)]
    rfl

/-- A call on a cache in memory does what it does to the map that the store stands for. -/
theorem run_call (h : Stores values held) (now : Instant) (call : CacheCall) :
    ∃ after, (⟨now, ⟨some values⟩⟩ : MemoryCache).run call.program =
        (⟨now, ⟨some after⟩⟩, (call.apply Instant.canonical Instant.difference held now).2) ∧
      Stores after (call.apply Instant.canonical Instant.difference held now).1 := by
  cases call with
  | put key data => exact ⟨_, rfl, stores_insert h key data now⟩
  | get key ttl =>
    obtain ⟨hk, he⟩ | ⟨data, storedAt, hk, ⟨hf, he⟩ | ⟨hf, he⟩⟩ :=
      CacheCall.apply_get Instant.canonical Instant.difference held now key ttl
    · rw [he]
      exact ⟨values, run_get_none h now ttl hk, h⟩
    · rw [he]
      exact ⟨values, (run_get_some h now ttl hk).trans (if_pos hf), h⟩
    · rw [he]
      exact ⟨_, (run_get_some h now ttl hk).trans (if_neg hf), stores_erase h key⟩

theorem serveAll_of_stores (h : Stores values held) (calls : List (Instant × CacheCall)) :
    ∃ after, (MemoryStore.mk (some values)).serveAll calls =
        (⟨some after⟩, (CacheCall.applyAll Instant.canonical Instant.difference held calls).2) ∧
      Stores after (CacheCall.applyAll Instant.canonical Instant.difference held calls).1 := by
  induction calls generalizing values held with
  | nil => exact ⟨values, rfl, h⟩
  | cons first rest ih =>
    obtain ⟨now, call⟩ := first
    obtain ⟨between, hr, hb⟩ := run_call h now call
    obtain ⟨after, hs, ha⟩ := ih hb
    refine ⟨after, ?_, ha⟩
    simp only [MemoryStore.serveAll, hr, hs]
    rfl

theorem stores_empty : Stores ∅ fun _ => none :=
  fun _ => ⟨rfl, fun _ h => by cases h⟩

/-- A cache over a store in memory behaves as a map from keys to data and times, through any calls
and at any times; what it has stored is read as it was put, and no call touches another key. The
time that is kept is the one that is read from the text of the time of the `put`, which is the time
itself but in a leap second within a minute; and if no time lies in a leap second, an age is the time
that has passed. -/
theorem serveAll_eq_applyAll (calls : List (Instant × CacheCall)) :
    let served := MemoryStore.empty.serveAll calls
    let held := CacheCall.applyAll Instant.canonical Instant.difference (fun _ => none) calls
    served.2 = held.2 ∧ (∀ reply ∈ served.2, reply.storeError? = none) ∧
    (∀ now key, (⟨now, served.1⟩ : MemoryCache).run (Cache.peek key) = (⟨now, served.1⟩,
      .ok ((held.1 key).map fun dated => CacheEntry.ofData dated.1 dated.2))) ∧
    (∀ now key entry, ((⟨now, served.1⟩ : MemoryCache).run (Cache.peek key)).2 = .ok (some entry) →
      entry.isIntact = true ∧ held.1 key = some (entry.data, entry.storedAt)) ∧
    (∀ now call key, key ≠ CacheCall.key call →
      (((⟨now, served.1⟩ : MemoryCache).run call.program).1.store.call (.get key)).2 =
        (served.1.call (.get key)).2) ∧
    ((∀ now key data, (now, CacheCall.put key data) ∈ calls → now.IsCanonical) →
      held = CacheCall.applyAll id Instant.difference (fun _ => none) calls) ∧
    ((∀ call ∈ calls, call.1.isLeap = false) →
      held = CacheCall.applyAll id Instant.passed (fun _ => none) calls) := by
  intro served held
  obtain ⟨values, hs, hv⟩ := serveAll_of_stores stores_empty calls
  have hfirst : served.1 = ⟨some values⟩ := congrArg Prod.fst hs
  have hreplies : served.2 = held.2 := congrArg Prod.snd hs
  have hpeek (now : Instant) (key : String) := run_peek hv now key
  refine ⟨hreplies, fun reply hr => ?_, ?_, fun now key entry he => ?_,
    fun now call key hk => ?_, fun hc => ?_, fun hl => ?_⟩
  · rw [hreplies] at hr
    exact CacheCall.storeError?_applyAll hr
  · rw [hfirst]
    exact hpeek
  · rw [hfirst, hpeek now key] at he
    obtain ⟨dated, hd, rfl⟩ := Option.map_eq_some_iff.mp (Except.ok.inj he)
    exact ⟨CacheEntry.isIntact_ofData dated.1 dated.2, hd⟩
  · obtain ⟨after, hr, ha⟩ := run_call hv now call
    rw [hfirst, hr]
    show Except.ok (after.find? key) = Except.ok (values.find? key)
    rw [(ha key).1, (hv key).1, CacheCall.apply_of_ne hk]
  · refine CacheCall.applyAll_congr (fun _ => True) (fun _ _ _ => trivial)
      (fun now key data hm => ⟨?_, trivial⟩) fun _ _ _ _ _ _ => rfl
    exact Instant.canonical_of_isCanonical (hc now key data hm)
  · refine CacheCall.applyAll_congr (fun storedAt => storedAt.isLeap = false)
      (fun _ _ h => by cases h) (fun now key data hm => ?_) fun now key ttl storedAt hm hk => ?_
    · have hn := hl _ hm
      have hc := Instant.canonical_of_isCanonical (Instant.isCanonical_of_not_isLeap hn)
      exact ⟨hc, hc ▸ hn⟩
    · exact Instant.difference_eq_passed hk (hl _ hm)

/-- Data that are put into a cache in a leap second can be a second older than a later `get` takes
them to be: if the leap second lies within a minute, as it is not kept, and at the end of a day, as it
is not counted. -/
theorem leap_second_not_counted :
    let within : List (Instant × CacheCall) := [
      (⟨1700000000, 1333333333, by decide, by decide, by decide⟩, .put "k" [0x76]),
      (⟨1700000001, 333333333, by decide, by decide, by decide⟩, .get "k" 1000000000)]
    let midnight : List (Instant × CacheCall) := [
      (⟨1700006399, 1500000000, by decide, by decide, by decide⟩, .put "k" [0x76]),
      (⟨1700006400, 0, by decide, by decide, by decide⟩, .get "k" 300000000)]
    (MemoryStore.empty.serveAll within).2 =
        [⟨.put "k" [0x76], .ok ()⟩, ⟨.get "k" 1000000000, .ok [0x76]⟩] ∧
      (CacheCall.applyAll id Instant.difference (fun _ => none) within).2 =
        [⟨.put "k" [0x76], .ok ()⟩, ⟨.get "k" 1000000000, .error .miss⟩] ∧
      (MemoryStore.empty.serveAll within).2 ≠
        (CacheCall.applyAll id Instant.difference (fun _ => none) within).2 ∧
      (MemoryStore.empty.serveAll midnight).2 =
        [⟨.put "k" [0x76], .ok ()⟩, ⟨.get "k" 300000000, .ok [0x76]⟩] ∧
      (CacheCall.applyAll id Instant.passed (fun _ => none) midnight).2 =
        [⟨.put "k" [0x76], .ok ()⟩, ⟨.get "k" 300000000, .error .miss⟩] ∧
      (MemoryStore.empty.serveAll midnight).2 ≠
        (CacheCall.applyAll id Instant.passed (fun _ => none) midnight).2 := by
  intro within midnight
  obtain ⟨_, hw, -⟩ := serveAll_of_stores stores_empty within
  obtain ⟨_, hm, -⟩ := serveAll_of_stores stores_empty midnight
  have hwithin : (MemoryStore.empty.serveAll within).2 =
      [⟨.put "k" [0x76], .ok ()⟩, ⟨.get "k" 1000000000, .ok [0x76]⟩] :=
    (congrArg Prod.snd hw).trans rfl
  have hmidnight : (MemoryStore.empty.serveAll midnight).2 =
      [⟨.put "k" [0x76], .ok ()⟩, ⟨.get "k" 300000000, .ok [0x76]⟩] :=
    (congrArg Prod.snd hm).trans rfl
  have hne (ttl : Nat) : ([⟨.put "k" [0x76], .ok ()⟩, ⟨.get "k" ttl, .ok [0x76]⟩] :
      List CacheReply) ≠ [⟨.put "k" [0x76], .ok ()⟩, ⟨.get "k" ttl, .error .miss⟩] := by
    intro h
    cases h
  refine ⟨hwithin, rfl, ?_, hmidnight, rfl, ?_⟩
  · rw [hwithin]
    exact hne 1000000000
  · rw [hmidnight]
    exact hne 300000000

end MemoryCache

end RequestScript
