import RequestScript.Proofs.Cache.Steps
import RequestScript.Proofs.FileStore.Failures

namespace RequestScript

/-- What a cache finds under a key of its store. -/
inductive Finding where
  | failing (error : StoreError)
  | absent
  | undecodable
  | entry (entry : CacheEntry)

namespace Finding

def ofBytes (bytes : Bytes) : Finding :=
  match CacheEntry.decode? bytes with
  | none => undecodable
  | some found => entry found

/-- What a text in the file of a store stands for. -/
def ofText (text : String) : Finding :=
  match Base64.standard.decode? text.toList with
  | none => undecodable
  | some bytes => ofBytes bytes

/-- What the answer of a store says; one about a bad value is no failure. -/
def ofAnswer : Except StoreError (Option Bytes) → Finding
  | .error (.badValue _ _) => undecodable
  | .error error => failing error
  | .ok none => absent
  | .ok (some bytes) => ofBytes bytes

end Finding

/-- What is under a key of a store in memory. -/
def MemoryStore.finding (store : MemoryStore) (key : String) : Finding :=
  match store.values with
  | none => .failing .closed
  | some values =>
    match values.find? key with
    | none => .absent
    | some bytes => .ofBytes bytes

/-- What is under a key of a store in a file that holds the given texts. -/
def FileStore.finding (store : FileStore) (texts : Except StoreError (Bindings String))
    (key : String) : Finding :=
  if store.isOpen then
    match texts with
    | .error error => .failing error
    | .ok held =>
      match held.find? key with
      | none => .absent
      | some text => .ofText text
  else .failing .closed

/-- A store in a file with all that surrounds it, as the surroundings of a cache. -/
structure FileCache where
  store : FileStore
  tag : List Char
  host : FaultyWorkspace

namespace FileCache

/-- The value of a program on a cache in a file, and what becomes of the cache. -/
def run {α : Type} (cache : FileCache) (program : CacheProgram α) : FileCache × α :=
  let (host, store, value) := cache.host.run (cache.store.serve cache.tag program)
  ({ cache with host, store }, value)

/-- What is under a key, as far as the file can be read. -/
def finding (cache : FileCache) (key : String) : Finding :=
  cache.store.finding (cache.host.run (FileStore.texts cache.store.path)).2 key

/-- Nothing has happened but that requests have been made. -/
structure Unchanged (cache later : FileCache) : Prop where
  store : later.store = cache.store
  workspace : later.host.toWorkspace = cache.host.toWorkspace

def respond (cache : FileCache) : (request : CacheRequest) → FileCache × request.Answer
  | .now =>
    let (host, instant) := cache.host.respond .now
    ({ cache with host }, instant)
  | .store call =>
    let (host, store, answer) := cache.host.run (cache.store.call cache.tag call)
    ({ cache with host, store }, answer)

theorem run_eq {α : Type} (cache : FileCache) (program : CacheProgram α) :
    cache.run program = program.run respond cache := by
  induction program generalizing cache with
  | done value => rfl
  | ask request next ih =>
    cases request with
    | now => exact ih (cache.host.respond .now).2 (cache.respond .now).1
    | store call =>
      have hb : cache.host.run (cache.store.serve cache.tag (.ask (.store call) next)) =
          (cache.host.run (cache.store.call cache.tag call)).1.run
            ((cache.host.run (cache.store.call cache.tag call)).2.1.serve cache.tag
              (next (cache.host.run (cache.store.call cache.tag call)).2.2)) :=
        FaultyWorkspace.run_bind _ _ _
      unfold run
      rw [hb]
      exact ih (cache.host.run (cache.store.call cache.tag call)).2.2
        (cache.respond (.store call)).1

end FileCache

/-- What a deletion answers once a key has been looked at and the time has been asked for. -/
def Cache.lateDelete (key : String) : CacheProgram (Except StoreError Unit) := do
  let _ ← storeGet key
  let _ ← now
  storeDelete key

/-- A result that does not blame a value which cannot be decoded. -/
def CacheError.NotBadValue {α : Type} (result : Except CacheError α) : Prop :=
  ∀ key reason, result ≠ .error (.store (.badValue key reason))

/-- How the calls of a cache end, and why: its surroundings answer programs through `run`, have the
time `clock`, and under their keys what `finding` says. -/
structure TellsApart {σ : Type} (run : (α : Type) → σ → CacheProgram α → σ × α)
    (clock : σ → Instant) (finding : σ → String → Finding) (Unchanged : σ → σ → Prop) : Prop where
  looks : ∀ cache key, Finding.ofAnswer (run _ cache (Cache.storeGet key)).2 = finding cache key
  miss : ∀ cache key ttl, (run _ cache (Cache.get key ttl)).2 = .error .miss ↔
    finding cache key = .absent ∨ finding cache key = .undecodable ∨
      ∃ entry, finding cache key = .entry entry ∧ ttl ≤ entry.age (clock cache) ∧
        (run _ cache (Cache.lateDelete key)).2 = .ok ()
  failure : ∀ cache key ttl error, (run _ cache (Cache.get key ttl)).2 = .error (.store error) ↔
    finding cache key = .failing error ∨
      ∃ entry, finding cache key = .entry entry ∧ ttl ≤ entry.age (clock cache) ∧
        (run _ cache (Cache.lateDelete key)).2 = .error error
  hit : ∀ cache key ttl data, (run _ cache (Cache.get key ttl)).2 = .ok data ↔
    ∃ entry, finding cache key = .entry entry ∧ entry.age (clock cache) < ttl ∧ entry.data = data
  keeps : ∀ cache key ttl, finding cache key = .absent ∨ finding cache key = .undecodable →
    Unchanged cache (run _ cache (Cache.get key ttl)).1
  get_notBadValue : ∀ cache key ttl, CacheError.NotBadValue (run _ cache (Cache.get key ttl)).2
  peek_notBadValue : ∀ cache key, CacheError.NotBadValue (run _ cache (Cache.peek key)).2
  put_notBadValue : ∀ cache key data, CacheError.NotBadValue (run _ cache (Cache.put key data)).2
  close_notBadValue : ∀ cache, CacheError.NotBadValue (run _ cache Cache.close).2

/-- A store that has nothing to say about bad values but when it is asked for one. -/
structure Blameless {σ : Type} (respond : σ → (request : CacheRequest) → σ × request.Answer) :
    Prop where
  put : ∀ cache key value other reason,
    (respond cache (.store (.put key value))).2 ≠ .error (.badValue other reason)
  delete : ∀ cache key other reason,
    (respond cache (.store (.delete key))).2 ≠ .error (.badValue other reason)
  close : ∀ cache other reason, (respond cache (.store .close)).2 ≠ .error (.badValue other reason)

theorem Finding.ofBytes_cases (bytes : Bytes) :
    CacheEntry.decode? bytes = none ∧ ofBytes bytes = undecodable ∨
      ∃ entry, CacheEntry.decode? bytes = some entry ∧ ofBytes bytes = .entry entry := by
  unfold ofBytes
  cases hd : CacheEntry.decode? bytes with
  | none => exact Or.inl ⟨rfl, rfl⟩
  | some entry => exact Or.inr ⟨entry, rfl, rfl⟩

namespace Cache

/-- How a `get` goes on with what it finds. -/
def follow (key : String) (ttl : Nat) : Finding → CacheProgram (Except CacheError Bytes)
  | .failing error => .done (.error (.store error))
  | .absent => .done (.error .miss)
  | .undecodable => .done (.error .miss)
  | .entry entry => .ask .now (weigh key ttl entry)

theorem judge_eq_follow (key : String) (ttl : Nat) (answer : Except StoreError (Option Bytes)) :
    judge key ttl answer = follow key ttl (Finding.ofAnswer answer) := by
  cases answer with
  | error error => cases error <;> rfl
  | ok held =>
    cases held with
    | none => rfl
    | some bytes =>
      rcases Finding.ofBytes_cases bytes with ⟨hd, hf⟩ | ⟨entry, hd, hf⟩ <;>
        simp only [judge, Finding.ofAnswer, hd, hf, follow]

/-- How a `get` ends, by what it finds, the time and what a deletion answers. -/
def outcome (ttl : Nat) (now : Instant) (deleted : Except StoreError Unit) :
    Finding → Except CacheError Bytes
  | .failing error => .error (.store error)
  | .absent => .error .miss
  | .undecodable => .error .miss
  | .entry entry =>
    if ttl ≤ entry.age now then
      match deleted with
      | .ok () => .error .miss
      | .error error => .error (.store error)
    else .ok entry.data

variable {ttl : Nat} {now : Instant} {deleted : Except StoreError Unit} {finding : Finding}

theorem outcome_eq_miss_iff : outcome ttl now deleted finding = .error .miss ↔
    finding = .absent ∨ finding = .undecodable ∨
      ∃ entry, finding = .entry entry ∧ ttl ≤ entry.age now ∧ deleted = .ok () := by
  cases finding with
  | failing error => simp [outcome]
  | absent => simp [outcome]
  | undecodable => simp [outcome]
  | entry entry =>
    by_cases ho : ttl ≤ entry.age now <;> rcases deleted with error | ⟨⟩ <;> simp [outcome, ho]

theorem outcome_eq_failure_iff {error : StoreError} :
    outcome ttl now deleted finding = .error (.store error) ↔
      finding = .failing error ∨
        ∃ entry, finding = .entry entry ∧ ttl ≤ entry.age now ∧ deleted = .error error := by
  cases finding with
  | failing error => simp [outcome]
  | absent => simp [outcome]
  | undecodable => simp [outcome]
  | entry entry =>
    by_cases ho : ttl ≤ entry.age now <;> rcases deleted with error | ⟨⟩ <;> simp [outcome, ho]

theorem outcome_eq_ok_iff {data : Bytes} : outcome ttl now deleted finding = .ok data ↔
    ∃ entry, finding = .entry entry ∧ entry.age now < ttl ∧ entry.data = data := by
  cases finding with
  | failing error => simp [outcome]
  | absent => simp [outcome]
  | undecodable => simp [outcome]
  | entry entry =>
    by_cases ho : ttl ≤ entry.age now
    · rcases deleted with error | ⟨⟩ <;> simp [outcome, ho]
    · simp [outcome, ho, Nat.not_le.mp ho]

end Cache

theorem Finding.ofAnswer_ne_badValue {answer : Except StoreError (Option Bytes)} (key : String)
    (reason : Base64Error) : ofAnswer answer ≠ .failing (.badValue key reason) := by
  cases answer with
  | error error => cases error <;> simp [ofAnswer]
  | ok held =>
    cases held with
    | none => simp [ofAnswer]
    | some bytes =>
      rcases ofBytes_cases bytes with ⟨-, hf⟩ | ⟨entry, -, hf⟩ <;> simp [ofAnswer, hf]

theorem Cache.notBadValue_seen (answer : Except StoreError (Option Bytes)) :
    CacheError.NotBadValue (seen answer) := by
  intro key reason he
  cases answer with
  | error error => cases error <;> cases he
  | ok held => cases held <;> cases he

theorem CacheError.notBadValue_mapError {α : Type} {answer : Except StoreError α}
    (h : ∀ key reason, answer ≠ .error (.badValue key reason)) :
    NotBadValue (answer.mapError .store) := by
  intro key reason he
  cases answer with
  | ok value => cases he
  | error error =>
    cases he
    exact h key reason rfl

namespace TellsApart

variable {σ : Type} {respond : σ → (request : CacheRequest) → σ × request.Answer}
  {run : (α : Type) → σ → CacheProgram α → σ × α} {clock : σ → Instant}
  {finding : σ → String → Finding} {Unchanged : σ → σ → Prop}

/-- Surroundings that go from request to request tell a miss from a failure if they show what they
find and blame no bad value without need. -/
theorem ofRespond (hrun : ∀ α cache program, run α cache program = program.run respond cache)
    (hfind : ∀ cache key,
      Finding.ofAnswer (respond cache (.store (.get key))).2 = finding cache key)
    (hclock : ∀ cache key,
      (respond (respond cache (.store (.get key))).1 .now).2 = clock cache)
    (hsame : ∀ cache key, Unchanged cache (respond cache (.store (.get key))).1)
    (hblame : Blameless respond) : TellsApart run clock finding Unchanged := by
  have hget (cache : σ) (key : String) (ttl : Nat) : run _ cache (Cache.get key ttl) =
      (Cache.follow key ttl (finding cache key)).run respond
        (respond cache (.store (.get key))).1 := by
    rw [hrun, Cache.get_eq, ← hfind]
    exact congrArg (fun program => program.run respond (respond cache (.store (.get key))).1)
      (Cache.judge_eq_follow key ttl (respond cache (.store (.get key))).2)
  have hdelete (cache : σ) (key : String) : (run _ cache (Cache.lateDelete key)).2 =
      (respond (respond (respond cache (.store (.get key))).1 .now).1 (.store (.delete key))).2 := by
    rw [hrun]
    rfl
  have hout (cache : σ) (key : String) (ttl : Nat) : (run _ cache (Cache.get key ttl)).2 =
      Cache.outcome ttl (clock cache) (run _ cache (Cache.lateDelete key)).2
        (finding cache key) := by
    rw [hget, hdelete]
    cases finding cache key with
    | failing error => rfl
    | absent => rfl
    | undecodable => rfl
    | entry entry =>
      show ((Cache.weigh key ttl entry (respond _ .now).2).run respond (respond _ .now).1).2 = _
      rw [hclock]
      by_cases ho : ttl ≤ entry.age (clock cache)
      · simp only [Cache.weigh, Cache.outcome, if_pos ho]
        show ((Cache.forget (respond _ (.store (.delete key))).2).run respond _).2 = _
        cases (respond (respond (respond cache (.store (.get key))).1 .now).1
          (.store (.delete key))).2 <;> rfl
      · simp only [Cache.weigh, Cache.outcome, if_neg ho]
        rfl
  refine ⟨fun cache key => ?_, fun cache key ttl => ?_, fun cache key ttl error => ?_,
    fun cache key ttl data => ?_, fun cache key ttl h => ?_, fun cache key ttl => ?_,
    fun cache key => ?_, fun cache key data => ?_, fun cache => ?_⟩
  · rw [hrun]
    exact hfind cache key
  · rw [hout]
    exact Cache.outcome_eq_miss_iff
  · rw [hout]
    exact Cache.outcome_eq_failure_iff
  · rw [hout]
    exact Cache.outcome_eq_ok_iff
  · rw [hget]
    rcases h with h | h <;> rw [h] <;> exact hsame cache key
  · intro other reason he
    rw [hout, Cache.outcome_eq_failure_iff] at he
    rcases he with hf | ⟨-, -, -, hd⟩
    · rw [← hfind] at hf
      exact Finding.ofAnswer_ne_badValue other reason hf
    · rw [hdelete] at hd
      exact hblame.delete _ key other reason hd
  · rw [hrun, Cache.peek_eq]
    exact Cache.notBadValue_seen (respond cache (.store (.get key))).2
  · rw [hrun]
    exact CacheError.notBadValue_mapError (hblame.put _ key _)
  · rw [hrun]
    exact CacheError.notBadValue_mapError (hblame.close cache)

end TellsApart

theorem MemoryStore.ofAnswer_call (store : MemoryStore) (key : String) :
    Finding.ofAnswer (store.call (.get key)).2 = store.finding key := by
  obtain ⟨values⟩ := store
  cases values with
  | none => rfl
  | some values =>
    show Finding.ofAnswer (.ok (values.find? key)) = match values.find? key with
      | none => .absent
      | some bytes => .ofBytes bytes
    cases values.find? key <;> rfl

theorem MemoryCache.store_call_get (cache : MemoryCache) (key : String) :
    (cache.store.call (.get key)).1 = cache.store := by
  obtain ⟨-, ⟨values⟩⟩ := cache
  cases values <;> rfl

theorem MemoryStore.call_ne_badValue (store : MemoryStore) :
    (∀ key value other reason,
      (store.call (.put key value)).2 ≠ .error (.badValue other reason)) ∧
    (∀ key other reason, (store.call (.delete key)).2 ≠ .error (.badValue other reason)) ∧
    ∀ other reason, (store.call .close).2 ≠ .error (.badValue other reason) := by
  obtain ⟨values⟩ := store
  cases values with
  | none =>
    exact ⟨fun _ _ _ _ h => (by cases h), fun _ _ _ h => (by cases h), fun _ _ h => (by cases h)⟩
  | some values =>
    exact ⟨fun _ _ _ _ h => (by cases h), fun _ _ _ h => (by cases h), fun _ _ h => (by cases h)⟩

theorem MemoryCache.tellsApart : TellsApart (fun _ => MemoryCache.run) MemoryCache.clock
    (fun cache key => cache.store.finding key) fun cache later => later = cache := by
  refine .ofRespond (fun _ _ _ => rfl) (fun cache key => cache.store.ofAnswer_call key)
    (fun _ _ => rfl) (fun cache key => ?_) ⟨?_, ?_, ?_⟩
  · show (⟨cache.clock, (cache.store.call (.get key)).1⟩ : MemoryCache) = cache
    rw [cache.store_call_get]
  · exact fun cache => cache.store.call_ne_badValue.1
  · exact fun cache => cache.store.call_ne_badValue.2.1
  · exact fun cache => cache.store.call_ne_badValue.2.2

namespace FileStore

theorem textsOf_ne_badValue (path : FilePath) (answer : Except FileError Bytes) (key : String)
    (reason : Base64Error) : textsOf path answer ≠ .error (.badValue key reason) := by
  intro h
  cases answer with
  | error error =>
    rw [textsOf] at h
    split at h <;> cases h
  | ok bytes =>
    rw [textsOf] at h
    split at h
    next => cases h
    next => split at h <;> cases h

theorem ofAnswer_valueIn (held : Bindings String) (key : String) :
    Finding.ofAnswer (valueIn key held) =
      match held.find? key with
      | none => .absent
      | some text => .ofText text := by
  unfold valueIn
  cases held.find? key with
  | none => rfl
  | some text =>
    show Finding.ofAnswer ((valueOf key text).map some) = .ofText text
    unfold valueOf Base64.decode Finding.ofText
    cases Base64.standard.decode? text.toList <;> rfl

theorem yields_carryOut (path : FilePath) (tag : List Char) (change : StoreChange)
    {texts : Except StoreError (Bindings String)}
    (h : ∀ key reason, texts ≠ .error (.badValue key reason)) :
    (change.carryOut path tag texts).Yields fun result =>
      ∀ key reason, result ≠ .error (.badValue key reason) := by
  cases texts with
  | error error =>
    intro key reason he
    cases he
    exact h key reason rfl
  | ok held =>
    unfold StoreChange.carryOut
    by_cases hi : change.isIdle held = true
    · simp only [if_pos hi]
      exact fun _ _ he => (by cases he)
    · simp only [if_neg hi]
      refine Program.yields_bind _ fun written key reason he => ?_
      cases written <;> cases he

/-- Only a look at a key can find a bad value. -/
theorem yields_on (store : FileStore) (tag : List Char) (change : StoreChange) :
    (change.on store tag).Yields fun result =>
      ∀ key reason, result.2 ≠ .error (.badValue key reason) := by
  obtain ⟨path, isOpen⟩ := store
  cases isOpen with
  | false =>
    rw [StoreChange.on_closed rfl]
    exact fun _ _ h => (by cases h)
  | true =>
    rw [StoreChange.on_eq]
    intro answer
    exact (yields_carryOut path tag change (textsOf_ne_badValue path answer)).bind fun _ h => h

theorem yields_openAt (path : FilePath) :
    (openAt path).Yields fun result => ∀ key reason, result ≠ .error (.badValue key reason) := by
  unfold openAt
  cases path.parent? with
  | none => exact fun _ _ h => (by cases h)
  | some parent =>
    dsimp only
    split
    · exact fun _ _ h => (by cases h)
    refine Program.yields_bind _ fun there => ?_
    split
    · exact fun _ _ h => (by cases h)
    refine Program.yields_bind _ fun made => ?_
    cases made <;> exact fun _ _ h => (by cases h)

end FileStore

namespace FileCache

theorem ofAnswer_call (cache : FileCache) (key : String) :
    Finding.ofAnswer (cache.host.run (cache.store.call cache.tag (.get key))).2.2 =
      cache.finding key := by
  obtain ⟨⟨path, isOpen⟩, tag, host⟩ := cache
  cases isOpen with
  | false => rfl
  | true =>
    have hne := FileStore.textsOf_ne_badValue path (host.respond (.read path)).2
    show Finding.ofAnswer (host.run (FileStore.call ⟨path, true⟩ tag (.get key))).2.2 =
      (⟨path, true⟩ : FileStore).finding (host.run (FileStore.texts path)).2 key
    rw [FaultyWorkspace.run_call_get, FaultyWorkspace.run_texts]
    show Finding.ofAnswer ((FileStore.textsOf path (host.respond (.read path)).2).bind
      (FileStore.valueIn key)) = match FileStore.textsOf path (host.respond (.read path)).2 with
        | .error error => .failing error
        | .ok held => _
    cases ht : FileStore.textsOf path (host.respond (.read path)).2 with
    | error error =>
      cases error with
      | badValue other reason => exact absurd ht (hne other reason)
      | file error => rfl
      | corrupt path => rfl
      | closed => rfl
    | ok held => exact FileStore.ofAnswer_valueIn held key

theorem unchanged_call (cache : FileCache) (key : String) :
    cache.Unchanged (cache.respond (.store (.get key))).1 := by
  obtain ⟨⟨path, isOpen⟩, tag, host⟩ := cache
  cases isOpen with
  | false => exact ⟨rfl, rfl⟩
  | true =>
    have hg := host.run_call_get path tag key
    show FileCache.Unchanged _ ⟨(host.run (FileStore.call ⟨path, true⟩ tag (.get key))).2.1, tag,
      (host.run (FileStore.call ⟨path, true⟩ tag (.get key))).1⟩
    rw [hg]
    exact ⟨rfl, (host.respond_read path).1⟩

theorem tellsApart : TellsApart (fun _ => FileCache.run) (fun cache => cache.host.clock)
    FileCache.finding FileCache.Unchanged := by
  refine .ofRespond (fun _ => run_eq) ofAnswer_call (fun cache key => ?_) unchanged_call
    ⟨fun cache key value => ?_, fun cache key => ?_, fun cache other reason => ?_⟩
  · have hw := (unchanged_call cache key).workspace
    show ((cache.respond (.store (.get key))).1.host.respond .now).2 = cache.host.clock
    rw [FaultyWorkspace.respond_now, hw]
  · exact (FileStore.yields_on cache.store cache.tag (.put key value)).run _ _
  · exact (FileStore.yields_on cache.store cache.tag (.delete key)).run _ _
  · obtain ⟨⟨path, isOpen⟩, tag, host⟩ := cache
    cases isOpen <;> exact fun h => (by cases h)

end FileCache

/-- A miss and a failure of the store are never taken for one another, in memory or in a file in
which anything may stand; and whether data still have their digest makes no difference. -/
theorem Cache.misses_and_failures_apart :
    (TellsApart (fun _ => MemoryCache.run) MemoryCache.clock
      (fun cache key => cache.store.finding key) fun cache later => later = cache) ∧
    (TellsApart (fun _ => FileCache.run) (fun cache => cache.host.clock) FileCache.finding
      FileCache.Unchanged) ∧
    (∀ path, (Cache.openAt path).Yields CacheError.NotBadValue) ∧
    ∀ key ttl entry checksum first second, CacheEntry.decode? first = some entry →
      CacheEntry.decode? second = some { entry with checksum } →
      ∃ next, Cache.get key ttl = .ask (.store (.get key)) next ∧
        next (.ok (some first)) = next (.ok (some second)) := by
  refine ⟨MemoryCache.tellsApart, FileCache.tellsApart, fun path => ?_,
    fun key ttl entry checksum first second hf hs => ⟨judge key ttl, get_eq key ttl, ?_⟩⟩
  · exact (FileStore.yields_openAt path).bind fun _ h => CacheError.notBadValue_mapError h
  · simp only [judge, hf, hs]
    rfl

end RequestScript
