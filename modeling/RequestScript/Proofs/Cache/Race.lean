import RequestScript.Proofs.Cache.Sharing

namespace RequestScript

namespace CacheEvent

variable {values : Bindings Bytes} {before : List CacheEvent} {event : CacheEvent}

/-- The look at its key with which a `get` has begun that is now under way, the entry which it has
read there, and what has happened since. -/
structure Look (before : List CacheEvent) (client : Nat) (key : String) (ttl : Nat) where
  earlier : List CacheEvent
  bytes : Bytes
  entry : CacheEntry
  since : List CacheEvent
  split : before =
    earlier ++ ⟨client, .get key ttl, ⟨.store (.get key), .ok (some bytes)⟩, none⟩ :: since
  reads : CacheEntry.decode? bytes = some entry

/-- A deletion is the end of a `get`, which has found the entry too old that it has read. Unless
something has been put under the key since the `get` has read it, nothing else is deleted. -/
def DeletesExpired (values : Bindings Bytes) (before : List CacheEvent) (deletion : CacheEvent)
    (key : String) : Prop :=
  ∃ ttl now, deletion.call = .get key ttl ∧ ∃ look : Look before deletion.client key ttl,
    look.since.filter (fun event => event.client = deletion.client) =
      [⟨deletion.client, .get key ttl, ⟨.now, now⟩, none⟩] ∧
    ttl ≤ look.entry.age now ∧
    ((∀ event ∈ look.since, ¬ event.puts key) →
      ∀ held ∈ heldAfter key (values.find? key) before, held = look.bytes)

/-- What a `get` makes of the time: it returns the data that it has read if they are young enough,
else it goes on. -/
def Weighs (before : List CacheEvent) (client : Nat) (key : String) (ttl : Nat) (now : Instant)
    (reply : Option (Except CacheError Bytes)) : Prop :=
  ∃ look : Look before client key ttl, (∀ event ∈ look.since, event.client ≠ client) ∧
    reply = if ttl ≤ look.entry.age now then none else some (.ok look.entry.data)

/-- What has been put is found, or in the meantime a `get` has found it too old. -/
def FindsPut (between : List CacheEvent) (key : String) (data value : Bytes)
    (answer : Except StoreError (Option Bytes)) : Prop :=
  ∃ storedAt, value = (CacheEntry.ofData data storedAt).encode ∧
    (answer = .ok (some value) ∨ ∃ client ttl now,
      ⟨client, .get key ttl, ⟨.now, now⟩, none⟩ ∈ between ∧
        ttl ≤ (CacheEntry.ofData data storedAt).age now)

theorem Follows.look_of_deletes {key : String} (h : Follows values before event)
    (hd : event.deletes key) : ∃ ttl now, event.call = .get key ttl ∧
      ∃ look : Look before event.client key ttl,
        look.since.filter (fun other => other.client = event.client) =
          [⟨event.client, .get key ttl, ⟨.now, now⟩, none⟩] ∧ ttl ≤ look.entry.age now := by
  obtain ⟨client, call, ⟨request, answer⟩, reply⟩ := event
  cases hd
  obtain ⟨told, next, ⟨earlier, recent, rfl, hu⟩, hl, -⟩ := h.next
  cases call with
  | put other data => rcases Cache.leads_put hl with ⟨-, hr⟩ | ⟨_, -, hr⟩ <;> cases hr
  | get other ttl =>
    rcases Cache.leads_get hl with ⟨-, hr⟩ | ⟨bytes, entry, hread, ⟨-, hr⟩ | ⟨now, rfl, hold, hr⟩⟩
    · cases hr
    · cases hr
    cases hr
    obtain ⟨first, since, rfl, -, -, hs⟩ := List.filter_eq_cons_iff.mp hu
    exact ⟨ttl, now, rfl, ⟨earlier ++ first, bytes, entry, since, (List.append_assoc ..).symm,
      hread⟩, hs, hold⟩

theorem Follows.weighs {client : Nat} {key : String} {ttl : Nat} {now : Instant}
    {reply : Option (Except CacheError Bytes)}
    (h : Follows values before ⟨client, .get key ttl, ⟨.now, now⟩, reply⟩) :
    Weighs before client key ttl now reply := by
  obtain ⟨told, next, ⟨earlier, recent, rfl, hu⟩, hl, hr⟩ := h.next
  rcases Cache.leads_get hl with ⟨-, hn⟩ | ⟨bytes, entry, hread, ⟨rfl, hn⟩ | ⟨_, -, -, hn⟩⟩
  · cases hn
  · cases hn
    obtain ⟨first, since, rfl, -, -, hs⟩ := List.filter_eq_cons_iff.mp hu
    refine ⟨⟨earlier ++ first, bytes, entry, since, (List.append_assoc ..).symm, hread⟩,
      fun event he hc => List.filter_eq_nil_iff.mp hs event he (decide_eq_true hc), hr.trans ?_⟩
    show (Cache.weigh key ttl entry now).value? =
      if ttl ≤ entry.age now then none else some (.ok entry.data)
    unfold Cache.weigh
    split <;> rfl
  · cases hn

theorem Follows.stamped {key other : String} {data value : Bytes} (h : Follows values before event)
    (hc : event.call = .put key data) (hr : event.told.1 = .store (.put other value)) :
    ∃ storedAt, value = (CacheEntry.ofData data storedAt).encode := by
  obtain ⟨client, call, ⟨request, answer⟩, reply⟩ := event
  cases hc
  cases hr
  obtain ⟨told, next, -, hl, -⟩ := h.next
  rcases Cache.leads_put hl with ⟨-, hn⟩ | ⟨now, -, hn⟩ <;> cases hn
  exact ⟨now, rfl⟩

theorem Look.held {client : Nat} {key : String} {ttl : Nat} (look : Look before client key ttl)
    (h : Consistent values before) :
    heldAfter key (values.find? key) look.earlier = some look.bytes := by
  have hs := (h _ _ _ look.split).shown key _ rfl
  exact (Except.ok.inj hs).symm

theorem Look.heldAfter_eq {client : Nat} {key : String} {ttl : Nat}
    (look : Look before client key ttl) (h : Consistent values before) :
    heldAfter key (values.find? key) before = heldAfter key (some look.bytes) look.since := by
  have hs := congrArg (heldAfter key (values.find? key)) look.split
  rwa [heldAfter_append_cons, look.held h, effect_of_looksAt rfl] at hs

theorem deletesExpired {key : String} (h : Consistent values (before ++ [event]))
    (hd : event.deletes key) : DeletesExpired values before event key := by
  have hb := h.of_append
  obtain ⟨ttl, now, hcall, look, hs, hold⟩ := (h before event [] rfl).look_of_deletes hd
  refine ⟨ttl, now, hcall, look, hs, hold, fun hp held hh => ?_⟩
  rw [look.heldAfter_eq hb] at hh
  rcases heldAfter_or_deleted hp (some look.bytes) with he | ⟨_, _, _, -, -, -, he⟩
  · rw [he] at hh
    exact (Option.mem_some_iff.mp hh).symm
  · rw [he] at hh
    cases hh

/-- If a client that has looked at its key and asked for the time has looked there since an event,
this look stands behind the event. -/
theorem Look.since_append {client : Nat} {key : String} {ttl : Nat}
    {earlier between : List CacheEvent} {put : CacheEvent}
    (look : Look (earlier ++ put :: between) client key ttl) {now : Instant}
    (hs : look.since.filter (fun event => event.client = client) =
      [⟨client, .get key ttl, ⟨.now, now⟩, none⟩])
    (hput : ¬ put.looksAt key)
    (hl : ∃ event ∈ between, event.client = client ∧ event.looksAt key) :
    ∃ first, look.earlier = earlier ++ put :: first ∧
      between = first ++
        ⟨client, .get key ttl, ⟨.store (.get key), .ok (some look.bytes)⟩, none⟩ :: look.since := by
  rcases List.append_eq_append_iff.mp look.split with ⟨middle, hm, hb⟩ | ⟨middle, hm, hb⟩
  · cases middle with
    | nil =>
      rw [(List.cons.inj hb).1] at hput
      exact absurd rfl hput
    | cons other first =>
      obtain ⟨rfl, hrest⟩ := List.cons.inj hb
      exact ⟨first, hm, hrest⟩
  · cases middle with
    | nil =>
      rw [← (List.cons.inj hb).1] at hput
      exact absurd rfl hput
    | cons other first =>
      obtain ⟨event, he, hc, hk⟩ := hl
      have hsince : look.since = first ++ put :: between := (List.cons.inj hb).2
      have hmem : event ∈ look.since.filter (fun event => event.client = client) := by
        simp [hsince, he, hc]
      rw [hs, List.mem_singleton] at hmem
      subst hmem
      cases hk

theorem findsPut {earlier between : List CacheEvent} {put look : CacheEvent} {key : String}
    {data value : Bytes} {answer : Except StoreError (Option Bytes)}
    (h : Consistent values (earlier ++ put :: between ++ [look]))
    (hcall : put.call = .put key data) (hput : put.told.1 = .store (.put key value))
    (hlook : look.told = ⟨.store (.get key), answer⟩)
    (hp : ∀ event ∈ between, ¬ event.puts key)
    (hd : ∀ before deletion after, between = before ++ deletion :: after → deletion.deletes key →
      ∃ event ∈ before, event.client = deletion.client ∧ event.looksAt key) :
    FindsPut between key data value answer := by
  have hb := h.of_append
  obtain ⟨now, rfl⟩ := (hb earlier put between rfl).stamped hcall hput
  -- the time that a `get` will read from the bytes
  refine ⟨now.canonical, (CacheEntry.encode_canonical (.ofData data now)).symm, ?_⟩
  have ha := (h _ look [] rfl).shown key answer hlook
  rw [heldAfter_append_cons, effect_of_puts hput] at ha
  rcases heldAfter_or_deleted hp (some _) with he | ⟨before, deletion, after, rfl, hdel, hheld, -⟩
  · exact Or.inl (he ▸ ha)
  have hc : Consistent values (earlier ++ put :: before ++ deletion :: after) := by
    rw [List.append_assoc, List.cons_append]
    exact hb
  obtain ⟨ttl, later, -, seen, hs, hold⟩ := (hc _ deletion after rfl).look_of_deletes hdel
  have hn : ¬ put.looksAt key := fun hl => by cases hput.symm.trans hl
  obtain ⟨first, hearlier, hbefore⟩ := seen.since_append hs hn (hd before deletion after rfl hdel)
  -- what the `get` has read is what was put, as it was still there at the deletion
  have hpb : ∀ event ∈ before, ¬ event.puts key :=
    fun event he => hp event (List.mem_append_left _ he)
  rw [hbefore] at hheld hpb
  have hfirst := heldAfter_of_append hpb hheld
  have hbytes := seen.held hc.of_append
  rw [hearlier, heldAfter_append_cons, effect_of_puts hput, hfirst] at hbytes
  have hentry := seen.reads
  rw [← Option.some.inj hbytes, CacheEntry.decode?_encode] at hentry
  have hdate : (⟨deletion.client, .get key ttl, ⟨.now, later⟩, none⟩ : CacheEvent) ∈ seen.since :=
    (List.mem_filter.mp (hs ▸ List.mem_singleton_self _)).1
  refine Or.inr ⟨deletion.client, ttl, later, by simp [hbefore, hdate], ?_⟩
  rw [← Option.some.inj hentry] at hold
  exact hold

/-- If none of some events but the last is a deletion, the others are all before it. -/
theorem eq_of_deletes_last {log first rest : List CacheEvent} {last deletion : CacheEvent}
    {key : String} (h : ∀ event ∈ log, ¬ event.deletes key)
    (hs : log ++ [last] = first ++ deletion :: rest) (hd : deletion.deletes key) :
    first = log ∧ deletion = last := by
  rcases List.eq_nil_or_concat rest with rfl | ⟨init, final, rfl⟩
  · obtain ⟨rfl, he⟩ := List.append_inj' hs rfl
    exact ⟨rfl, (List.cons.inj he).1.symm⟩
  · rw [List.concat_eq_append, ← List.cons_append, ← List.append_assoc] at hs
    obtain ⟨rfl, -⟩ := List.append_inj' hs rfl
    exact absurd hd (h deletion (by simp))

end CacheEvent

namespace SharedCache

open CacheEvent

variable {cache : MemoryCache} {clock later : Instant} {current : Bindings Bytes}
  {tasks : Nat → Option CacheTask} {log : List CacheEvent} {client : Nat} {key : String}
  {ttl : Nat} {entry : CacheEntry}

theorem run_append (shared : SharedCache) (first rest : List Turn) :
    shared.run (first ++ rest) = (shared.run first).run rest :=
  List.foldl_append

theorem run_singleton (shared : SharedCache) (turn : Turn) :
    shared.run [turn] = shared.take turn :=
  rfl

/-- A client whose call has ended is idle. -/
theorem isIdle_done {writer : Nat} {call : CacheCall} {value : call.Answer}
    (h : isIdle ⟨cache, tasks, log⟩ client = true) :
    isIdle ⟨cache, Function.update tasks writer (some ⟨call, .done value⟩), log⟩ client = true := by
  by_cases hc : client = writer
  · subst hc
    simp [isIdle, Program.value?]
  · simpa [isIdle, Function.update_of_ne hc] using h

theorem take_begins {shared : SharedCache} (h : shared.isIdle client = true) (call : CacheCall) :
    shared.take (.begins client call) =
      { shared with tasks := Function.update shared.tasks client (some ⟨call, call.program⟩) } :=
  if_pos h

theorem take_asks {call : CacheCall} {request : CacheRequest} {answer : request.Answer}
    {next : request.Answer → CacheProgram call.Answer} {left : CacheProgram call.Answer}
    {after : MemoryCache} (hr : cache.respond request = (after, answer)) (hn : next answer = left) :
    take ⟨cache, Function.update tasks client (some ⟨call, .ask request next⟩), log⟩
        (.asks client) =
      ⟨after, Function.update tasks client (some ⟨call, left⟩),
        log ++ [⟨client, call, ⟨request, answer⟩, left.value?⟩]⟩ := by
  subst hn
  simp only [take, Function.update_self, Function.update_idem, hr]

theorem run_put (h : isIdle ⟨⟨clock, ⟨some current⟩⟩, tasks, log⟩ client = true) (key : String)
    (data : Bytes) :
    run ⟨⟨clock, ⟨some current⟩⟩, tasks, log⟩
        [.begins client (.put key data), .asks client, .asks client] =
      ⟨⟨clock, ⟨some (current.insert key (CacheEntry.ofData data clock).encode)⟩⟩,
        Function.update tasks client (some ⟨.put key data, .done (.ok ())⟩),
        log ++ [⟨client, .put key data, ⟨.now, clock⟩, none⟩,
          ⟨client, .put key data, ⟨.store (.put key (CacheEntry.ofData data clock).encode), .ok ()⟩,
            some (.ok ())⟩]⟩ := by
  have hp : (CacheCall.put key data).program = .ask .now fun now =>
    .ask (.store (.put key (CacheEntry.ofData data now).encode)) fun answer =>
      .done (answer.mapError .store) := rfl
  simp only [run, List.foldl, take_begins h, hp]
  rw [take_asks rfl rfl, take_asks rfl rfl, List.append_assoc]
  rfl

theorem run_look (h : isIdle ⟨⟨clock, ⟨some current⟩⟩, tasks, log⟩ client = true) :
    run ⟨⟨clock, ⟨some current⟩⟩, tasks, log⟩ [.begins client (.get key ttl), .asks client] =
      ⟨⟨clock, ⟨some current⟩⟩,
        Function.update tasks client
          (some ⟨.get key ttl, Cache.judge key ttl (.ok (current.find? key))⟩),
        log ++ [⟨client, .get key ttl, ⟨.store (.get key), .ok (current.find? key)⟩,
          (Cache.judge key ttl (.ok (current.find? key))).value?⟩]⟩ := by
  have hp : (CacheCall.get key ttl).program = .ask (.store (.get key)) (Cache.judge key ttl) :=
    Cache.get_eq key ttl
  simp only [run, List.foldl, take_begins h, hp]
  exact take_asks rfl rfl

theorem run_look_entry (h : isIdle ⟨⟨clock, ⟨some current⟩⟩, tasks, log⟩ client = true)
    (hk : current.find? key = some entry.encode) :
    run ⟨⟨clock, ⟨some current⟩⟩, tasks, log⟩ [.begins client (.get key ttl), .asks client] =
      ⟨⟨clock, ⟨some current⟩⟩,
        Function.update tasks client
          (some ⟨.get key ttl, .ask .now (Cache.weigh key ttl entry.canonical)⟩),
        log ++ [⟨client, .get key ttl, ⟨.store (.get key), .ok (some entry.encode)⟩, none⟩]⟩ := by
  rw [run_look h, hk, Cache.judge_encode]
  rfl

theorem run_passes (later : Instant) :
    run ⟨⟨clock, ⟨some current⟩⟩, tasks, log⟩ [.passes later] =
      ⟨⟨later, ⟨some current⟩⟩, tasks, log⟩ :=
  rfl

theorem take_weigh_old (hold : ttl ≤ entry.age clock) :
    take ⟨⟨clock, ⟨some current⟩⟩, Function.update tasks client
        (some ⟨.get key ttl, .ask .now (Cache.weigh key ttl entry)⟩), log⟩ (.asks client) =
      ⟨⟨clock, ⟨some current⟩⟩, Function.update tasks client
          (some ⟨.get key ttl, .ask (.store (.delete key)) Cache.forget⟩),
        log ++ [⟨client, .get key ttl, ⟨.now, clock⟩, none⟩]⟩ :=
  take_asks rfl (if_pos hold)

theorem take_weigh_young (hyoung : entry.age clock < ttl) :
    take ⟨⟨clock, ⟨some current⟩⟩, Function.update tasks client
        (some ⟨.get key ttl, .ask .now (Cache.weigh key ttl entry)⟩), log⟩ (.asks client) =
      ⟨⟨clock, ⟨some current⟩⟩,
        Function.update tasks client (some ⟨.get key ttl, .done (.ok entry.data)⟩),
        log ++ [⟨client, .get key ttl, ⟨.now, clock⟩, some (.ok entry.data)⟩]⟩ :=
  take_asks rfl (if_neg (Nat.not_le.mpr hyoung))

theorem take_forget :
    take ⟨⟨clock, ⟨some current⟩⟩, Function.update tasks client
        (some ⟨.get key ttl, .ask (.store (.delete key)) Cache.forget⟩), log⟩ (.asks client) =
      ⟨⟨clock, ⟨some (current.erase key)⟩⟩,
        Function.update tasks client (some ⟨.get key ttl, .done (.error .miss)⟩),
        log ++ [⟨client, .get key ttl, ⟨.store (.delete key), .ok ()⟩, some (.error .miss)⟩]⟩ :=
  take_asks rfl rfl

/-- A client puts something under a key; the client 0 later looks at it and asks for the time. -/
def agingTurns (writer : Nat) (key : String) (old : Bytes) (ttl : Nat) (later : Instant) :
    List Turn :=
  [.begins writer (.put key old), .asks writer, .asks writer] ++ [.passes later] ++
    [.begins 0 (.get key ttl), .asks 0] ++ [.asks 0]

def agingLog (writer : Nat) (key : String) (old : Bytes) (ttl : Nat) (clock later : Instant) :
    List CacheEvent := [
  ⟨writer, .put key old, ⟨.now, clock⟩, none⟩,
  ⟨writer, .put key old, ⟨.store (.put key (CacheEntry.ofData old clock).encode), .ok ()⟩,
    some (.ok ())⟩,
  ⟨0, .get key ttl, ⟨.store (.get key), .ok (some (CacheEntry.ofData old clock).encode)⟩, none⟩,
  ⟨0, .get key ttl, ⟨.now, later⟩, none⟩]

/-- If what is there has become too old, the client 0 will now delete the key. -/
theorem run_agingTurns (writer : Nat) (key : String) (old : Bytes)
    (hold : ttl ≤ (CacheEntry.ofData old clock).canonical.age later) :
    (ofCache ⟨clock, .empty⟩).run (agingTurns writer key old ttl later) =
      ⟨⟨later, ⟨some (Bindings.insert ∅ key (CacheEntry.ofData old clock).encode)⟩⟩,
        Function.update (Function.update (fun _ => none) writer
            (some ⟨.put key old, .done (.ok ())⟩)) 0
          (some ⟨.get key ttl, .ask (.store (.delete key)) Cache.forget⟩),
        agingLog writer key old ttl clock later⟩ := by
  have hput : (ofCache ⟨clock, .empty⟩).run
      [.begins writer (.put key old), .asks writer, .asks writer] = _ := run_put rfl key old
  have hk : (Bindings.insert ∅ key (CacheEntry.ofData old clock).encode).find? key =
      some (CacheEntry.ofData old clock).encode := by
    rw [Bindings.find?_insert, if_pos rfl]
  rw [agingTurns, run_append, run_append, run_append, hput, run_passes,
    run_look_entry (by exact isIdle_done rfl) hk, run_singleton, take_weigh_old hold]
  rfl

/-- While a `get` is under way that will delete its key, another client puts something new there,
and looks at it when the `get` has come to its end. -/
def raceTurns (key : String) (old new : Bytes) (ttl : Nat) (later : Instant) : List Turn :=
  agingTurns 0 key old ttl later ++ [.begins 1 (.put key new), .asks 1, .asks 1] ++ [.asks 0] ++
    [.begins 1 (.get key ttl), .asks 1]

theorem log_race (key : String) (old new : Bytes)
    (hold : ttl ≤ (CacheEntry.ofData old clock).canonical.age later) :
    ((ofCache ⟨clock, .empty⟩).run (raceTurns key old new ttl later)).log =
      agingLog 0 key old ttl clock later ++ [
        ⟨1, .put key new, ⟨.now, later⟩, none⟩,
        ⟨1, .put key new, ⟨.store (.put key (CacheEntry.ofData new later).encode), .ok ()⟩,
          some (.ok ())⟩,
        ⟨0, .get key ttl, ⟨.store (.delete key), .ok ()⟩, some (.error .miss)⟩,
        ⟨1, .get key ttl, ⟨.store (.get key), .ok none⟩, some (.error .miss)⟩] := by
  have hk : ((Bindings.insert (Bindings.insert ∅ key (CacheEntry.ofData old clock).encode) key
      (CacheEntry.ofData new later).encode).erase key).find? key = none := by
    rw [Bindings.find?_erase, if_pos rfl]
  rw [raceTurns, run_append, run_append, run_append, run_agingTurns 0 key old hold,
    run_put rfl key new, run_singleton, Function.update_comm (by decide : (0 : Nat) ≠ 1), take_forget,
    run_look rfl, hk]
  simp only [List.append_assoc, List.cons_append, List.nil_append]
  rfl

/-- While a `get` is under way that will delete what another client has put, a third client finds it
young enough for a `get` of its own; it looks again after the deletion. -/
def expiryTurns (key : String) (old : Bytes) (ttl longer : Nat) (later : Instant) : List Turn :=
  agingTurns 1 key old ttl later ++ [.begins 2 (.get key longer), .asks 2] ++ [.asks 2] ++
    [.asks 0] ++ [.begins 2 (.get key longer), .asks 2]

theorem log_expiry (key : String) (old : Bytes) {longer : Nat}
    (hold : ttl ≤ (CacheEntry.ofData old clock).canonical.age later)
    (hyoung : (CacheEntry.ofData old clock).canonical.age later < longer) :
    ((ofCache ⟨clock, .empty⟩).run (expiryTurns key old ttl longer later)).log =
      agingLog 1 key old ttl clock later ++ [
        ⟨2, .get key longer, ⟨.store (.get key),
          .ok (some (CacheEntry.ofData old clock).encode)⟩, none⟩,
        ⟨2, .get key longer, ⟨.now, later⟩, some (.ok old)⟩,
        ⟨0, .get key ttl, ⟨.store (.delete key), .ok ()⟩, some (.error .miss)⟩,
        ⟨2, .get key longer, ⟨.store (.get key), .ok none⟩, some (.error .miss)⟩] := by
  have hk : (Bindings.insert ∅ key (CacheEntry.ofData old clock).encode).find? key =
      some (CacheEntry.ofData old clock).encode := by
    rw [Bindings.find?_insert, if_pos rfl]
  have hgone : ((Bindings.insert ∅ key (CacheEntry.ofData old clock).encode).erase key).find? key =
      none := by
    rw [Bindings.find?_erase, if_pos rfl]
  rw [expiryTurns, run_append, run_append, run_append, run_append, run_agingTurns 1 key old hold,
    run_look_entry rfl hk, run_singleton, run_singleton, take_weigh_young hyoung,
    Function.update_comm (by decide : (0 : Nat) ≠ 2), take_forget, run_look rfl, hgone]
  simp only [List.append_assoc, List.cons_append, List.nil_append]
  rfl

def early : Instant :=
  ⟨1700000000, 0, by decide, by decide, by decide⟩

def late : Instant :=
  ⟨1700000100, 0, by decide, by decide, by decide⟩

/-- Whatever many clients ask of a cache at once, a `get` deletes only what it has found too old,
unless something new has been put there since it looked. What has been put is found by those who
look later, unless a `get` has found it too old, if nobody deletes it who has not looked since. Data
that are found and young enough are returned. -/
theorem gets_delete_expired (clock : Instant) (values : Bindings Bytes) (turns : List Turn) :
    let log := ((ofCache ⟨clock, ⟨some values⟩⟩).run turns).log
    (∀ before deletion after key, log = before ++ deletion :: after → deletion.deletes key →
      DeletesExpired values before deletion key) ∧
    (∀ earlier put between look after key data value answer,
      log = earlier ++ put :: between ++ look :: after →
      put.call = .put key data → put.told.1 = .store (.put key value) →
      look.told = ⟨.store (.get key), answer⟩ → (∀ event ∈ between, ¬ event.puts key) →
      (∀ before deletion after, between = before ++ deletion :: after → deletion.deletes key →
        ∃ event ∈ before, event.client = deletion.client ∧ event.looksAt key) →
      FindsPut between key data value answer) ∧
    ∀ before after client key ttl now reply,
      log = before ++ ⟨client, .get key ttl, ⟨.now, now⟩, reply⟩ :: after →
      Weighs before client key ttl now reply := by
  intro log
  have hc : Consistent values log := ((sound_ofCache clock values).run turns).consistent
  refine ⟨fun before deletion after key hs hd => ?_,
    fun earlier put between look after key data value answer hs hcall hput hlook hp hd => ?_,
    fun before after client key ttl now reply hs => (hc before _ after hs).weighs⟩
  · rw [hs, List.append_cons] at hc
    exact deletesExpired hc.of_append hd
  · rw [hs, List.append_cons] at hc
    exact findsPut hc.of_append hcall hput hlook hp hd

/-- One client puts something, another deletes it when it is too old, and a third finds it before
and no more after that. -/
theorem gets_delete_expired_three_clients :
    let entry := CacheEntry.ofData [1] early
    let put : CacheEvent := ⟨1, .put "k" [1], ⟨.store (.put "k" entry.encode), .ok ()⟩, some (.ok ())⟩
    let looks : List CacheEvent := [
      ⟨0, .get "k" 10000000000, ⟨.store (.get "k"), .ok (some entry.encode)⟩, none⟩,
      ⟨0, .get "k" 10000000000, ⟨.now, late⟩, none⟩,
      ⟨2, .get "k" 500000000000, ⟨.store (.get "k"), .ok (some entry.encode)⟩, none⟩]
    let reply : CacheEvent := ⟨2, .get "k" 500000000000, ⟨.now, late⟩, some (.ok [1])⟩
    let deletion : CacheEvent :=
      ⟨0, .get "k" 10000000000, ⟨.store (.delete "k"), .ok ()⟩, some (.error .miss)⟩
    let before := ⟨1, .put "k" [1], ⟨.now, early⟩, none⟩ :: put :: looks
    DeletesExpired ∅ (before ++ [reply]) deletion "k" ∧
      FindsPut (looks ++ [reply] ++ [deletion]) "k" [1] entry.encode (.ok none) ∧
      Weighs before 2 "k" 500000000000 late (some (.ok [1])) := by
  intro entry put looks reply deletion before
  obtain ⟨hd, hf, hw⟩ := gets_delete_expired early ∅
    (expiryTurns "k" [1] 10000000000 500000000000 late)
  have hold : 10000000000 ≤ entry.canonical.age late := by decide
  have hyoung : entry.canonical.age late < 500000000000 := by decide
  have hlog := log_expiry "k" [1] hold hyoung
  refine ⟨hd _ _ [_] "k" hlog rfl, hf [_] put _ _ [] "k" [1] _ _ hlog rfl rfl rfl ?_ ?_,
    hw _ _ 2 "k" _ late _ hlog⟩
  · simp [looks, reply, deletion, CacheEvent.puts]
  · intro first other rest hs ho
    have hn : ∀ event ∈ looks ++ [reply], ¬ event.deletes "k" := by
      simp [looks, reply, CacheEvent.deletes]
    obtain ⟨rfl, rfl⟩ := eq_of_deletes_last hn hs ho
    exact ⟨_, List.mem_cons_self, rfl, rfl⟩

/-- The times that a log shows. -/
def readings (log : List CacheEvent) : List Instant :=
  log.filterMap fun event =>
    match event.told with
    | ⟨.now, now⟩ => some now
    | _ => none

/-- A `get` deletes what another client has put since it looked, though it is younger than the
`get` allows at the time that it was told; after that it is not found. -/
theorem get_deletes_new_entry :
    let log := ((ofCache ⟨early, .empty⟩).run (raceTurns "k" [1] [2] 10000000000 late)).log
    ((readings log).Pairwise fun first second => 0 ≤ first.difference second) ∧
    ∃ before after, log = before ++
        ⟨0, .get "k" 10000000000, ⟨.store (.delete "k"), .ok ()⟩, some (.error .miss)⟩ :: after ∧
      ⟨0, .get "k" 10000000000, ⟨.now, late⟩, none⟩ ∈ before ∧
      heldAfter "k" none before = some (CacheEntry.ofData [2] late).encode ∧
      (CacheEntry.ofData [2] late).age late < 10000000000 ∧
      ⟨1, .put "k" [2], ⟨.store (.put "k" (CacheEntry.ofData [2] late).encode), .ok ()⟩,
        some (.ok ())⟩ ∈ before ∧
      ⟨1, .get "k" 10000000000, ⟨.store (.get "k"), .ok none⟩, some (.error .miss)⟩ ∈ after := by
  have hold : 10000000000 ≤ (CacheEntry.ofData [1] early).canonical.age late := by decide
  have hlog := log_race "k" [1] [2] hold
  intro log
  refine ⟨?_, agingLog 0 "k" [1] 10000000000 early late ++ [_, _], [_], hlog, ?_, ?_, ?_, ?_, ?_⟩
  · have hread : readings log = [early, late, late] := congrArg readings hlog
    rw [hread]
    decide
  · simp [agingLog]
  · rw [heldAfter_append_cons]
    rfl
  · decide
  · simp
  · simp

end SharedCache

end RequestScript
