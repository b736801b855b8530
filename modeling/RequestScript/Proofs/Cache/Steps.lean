import RequestScript.Proofs.Cache

namespace RequestScript

/-- A request to the surroundings of a cache, with the answer. -/
abbrev CacheExchange := (request : CacheRequest) × request.Answer

namespace Program

/-- A program that has been told some answers, and what is then left of it. -/
inductive Leads {α : Type} : CacheProgram α → List CacheExchange → CacheProgram α → Prop
  | start (program : CacheProgram α) : Leads program [] program
  | told {request : CacheRequest} {next : request.Answer → CacheProgram α}
      {answer : request.Answer} {rest : List CacheExchange} {left : CacheProgram α}
      (h : Leads (next answer) rest left) :
      Leads (.ask request next) (⟨request, answer⟩ :: rest) left

variable {α : Type} {program left : CacheProgram α} {told : List CacheExchange}
  {request : CacheRequest} {next : request.Answer → CacheProgram α}

theorem Leads.snoc (h : Leads program told (.ask request next)) (answer : request.Answer) :
    Leads program (told ++ [⟨request, answer⟩]) (next answer) := by
  generalize hl : Program.ask request next = left at h
  induction h with
  | start program =>
    subst hl
    exact .told (.start _)
  | told _ ih => exact .told (ih hl)

theorem leads_ask (h : Leads (.ask request next) told left) :
    told = [] ∧ left = .ask request next ∨
      ∃ answer rest, told = ⟨request, answer⟩ :: rest ∧ Leads (next answer) rest left := by
  cases h with
  | start => exact Or.inl ⟨rfl, rfl⟩
  | told h => exact Or.inr ⟨_, _, rfl, h⟩

theorem not_leads_done {value : α} : ¬ Leads (.done value) told (.ask request next) :=
  fun h => by cases h

end Program

namespace Cache

/-- The entry that is found under a key; what cannot be decoded is as good as none. -/
def seen : Except StoreError (Option Bytes) → Except CacheError (Option CacheEntry)
  | .ok (some bytes) => .ok (CacheEntry.decode? bytes)
  | .ok none => .ok none
  | .error (.badValue _ _) => .ok none
  | .error error => .error (.store error)

theorem peek_eq (key : String) :
    peek key = .ask (.store (.get key)) fun answer => .done (seen answer) := by
  refine congrArg (Program.ask (CacheRequest.store (.get key))) (funext fun answer => ?_)
  cases answer with
  | error error => cases error <;> rfl
  | ok held => cases held <;> rfl

/-- The end of a call of `get` that has deleted its key. -/
def forget : Except StoreError Unit → CacheProgram (Except CacheError Bytes)
  | .ok () => .done (.error .miss)
  | .error error => .done (.error (.store error))

/-- How a call of `get` goes on when it has read an entry and is told the time. -/
def weigh (key : String) (ttl : Nat) (entry : CacheEntry) (now : Instant) :
    CacheProgram (Except CacheError Bytes) :=
  if ttl ≤ entry.age now then .ask (.store (.delete key)) forget else .done (.ok entry.data)

/-- How a call of `get` goes on when it has looked at its key. -/
def judge (key : String) (ttl : Nat) :
    Except StoreError (Option Bytes) → CacheProgram (Except CacheError Bytes)
  | .error (.badValue _ _) => .done (.error .miss)
  | .error error => .done (.error (.store error))
  | .ok none => .done (.error .miss)
  | .ok (some bytes) =>
    match CacheEntry.decode? bytes with
    | none => .done (.error .miss)
    | some entry => .ask .now (weigh key ttl entry)

theorem judge_eq (key : String) (ttl : Nat) (answer : Except StoreError (Option Bytes)) :
    judge key ttl answer =
      match seen answer with
      | .error error => .done (.error error)
      | .ok none => .done (.error .miss)
      | .ok (some entry) => .ask .now (weigh key ttl entry) := by
  cases answer with
  | error error => cases error <;> rfl
  | ok held =>
    cases held with
    | none => rfl
    | some bytes =>
      simp only [judge, seen]
      cases CacheEntry.decode? bytes <;> rfl

theorem judge_encode (key : String) (ttl : Nat) (entry : CacheEntry) :
    judge key ttl (.ok (some entry.encode)) = .ask .now (weigh key ttl entry.canonical) := by
  simp only [judge, CacheEntry.decode?_encode]

theorem get_eq (key : String) (ttl : Nat) :
    Cache.get key ttl = .ask (.store (.get key)) (judge key ttl) := by
  have hw (entry : CacheEntry) (now : Instant) : weigh key ttl entry now =
      if ttl ≤ entry.age now then
        (storeDelete key).bind fun answer =>
          match answer with
          | .ok () => .done (.error .miss)
          | .error error => .done (.error (.store error))
      else .done (.ok entry.data) := by
    unfold weigh
    split <;> rfl
  show Program.ask _ _ = Program.ask _ _
  congr 1
  funext answer
  cases answer with
  | error error => cases error <;> rfl
  | ok held =>
    cases held with
    | none => rfl
    | some bytes =>
      simp only [judge]
      show Program.bind (Program.done (Except.ok (CacheEntry.decode? bytes))) _ = _
      cases CacheEntry.decode? bytes with
      | none => rfl
      | some entry =>
        exact congrArg (Program.ask CacheRequest.now) (funext fun now => (hw entry now).symm)

variable {key : String} {ttl : Nat} {told : List CacheExchange} {request : CacheRequest}
  {next : request.Answer → CacheProgram (Except CacheError Bytes)}

theorem leads_weigh {entry : CacheEntry} {now : Instant}
    (h : Program.Leads (weigh key ttl entry now) told (.ask request next)) :
    told = [] ∧ ttl ≤ entry.age now ∧ request = .store (.delete key) := by
  unfold weigh at h
  split at h
  next hold =>
    rcases Program.leads_ask h with ⟨rfl, hl⟩ | ⟨answer, rest, -, hr⟩
    · cases hl
      exact ⟨rfl, hold, rfl⟩
    · cases answer <;> exact absurd hr Program.not_leads_done
  next => exact absurd h Program.not_leads_done

theorem leads_judge {answer : Except StoreError (Option Bytes)}
    (h : Program.Leads (judge key ttl answer) told (.ask request next)) :
    ∃ bytes entry, answer = .ok (some bytes) ∧ CacheEntry.decode? bytes = some entry ∧
      Program.Leads (.ask .now (weigh key ttl entry)) told (.ask request next) := by
  unfold judge at h
  split at h
  case h_4 bytes =>
    cases hd : CacheEntry.decode? bytes with
    | none =>
      rw [hd] at h
      exact absurd h Program.not_leads_done
    | some entry =>
      rw [hd] at h
      exact ⟨bytes, entry, rfl, hd, h⟩
  all_goals exact absurd h Program.not_leads_done

/-- A `get` looks at its key, then asks for the time if it has read an entry, and then deletes the
key if the entry is too old at that time. -/
theorem leads_get (h : Program.Leads (Cache.get key ttl) told (.ask request next)) :
    told = [] ∧ request = .store (.get key) ∨
      ∃ bytes entry, CacheEntry.decode? bytes = some entry ∧
        (told = [⟨.store (.get key), .ok (some bytes)⟩] ∧
            Program.ask request next = .ask .now (weigh key ttl entry) ∨
          ∃ now, told = [⟨.store (.get key), .ok (some bytes)⟩, ⟨.now, now⟩] ∧
            ttl ≤ entry.age now ∧ request = .store (.delete key)) := by
  rw [get_eq] at h
  rcases Program.leads_ask h with ⟨rfl, hl⟩ | ⟨answer, rest, rfl, hj⟩
  · cases hl
    exact Or.inl ⟨rfl, rfl⟩
  obtain ⟨bytes, entry, rfl, hd, ha⟩ := leads_judge hj
  refine Or.inr ⟨bytes, entry, hd, ?_⟩
  rcases Program.leads_ask ha with ⟨rfl, hl⟩ | ⟨now, rest, rfl, hw⟩
  · exact Or.inl ⟨rfl, hl⟩
  · obtain ⟨rfl, hold, hr⟩ := leads_weigh hw
    exact Or.inr ⟨now, rfl, hold, hr⟩

/-- A `put` asks for the time and then stores its data with it. -/
theorem leads_put {data : Bytes} {next : request.Answer → CacheProgram (Except CacheError Unit)}
    (h : Program.Leads (Cache.put key data) told (.ask request next)) :
    told = [] ∧ request = .now ∨
      ∃ now, told = [⟨.now, now⟩] ∧
        request = .store (.put key (CacheEntry.ofData data now).encode) := by
  rcases Program.leads_ask h with ⟨rfl, hl⟩ | ⟨now, rest, rfl, hs⟩
  · cases hl
    exact Or.inl ⟨rfl, rfl⟩
  refine Or.inr ⟨now, ?_⟩
  rcases Program.leads_ask hs with ⟨rfl, hl⟩ | ⟨answer, rest, rfl, hr⟩
  · cases hl
    exact ⟨rfl, rfl⟩
  · exact absurd hr Program.not_leads_done

end Cache

/-- Neither call closes the store. -/
theorem CacheCall.not_leads_close {call : CacheCall} {told : List CacheExchange}
    {next : (CacheRequest.store .close).Answer → CacheProgram call.Answer} :
    ¬ Program.Leads call.program told (.ask (.store .close) next) := by
  intro h
  cases call with
  | get key ttl =>
    rcases Cache.leads_get h with ⟨-, hr⟩ | ⟨_, _, -, ⟨-, hr⟩ | ⟨_, -, -, hr⟩⟩ <;> cases hr
  | put key data => rcases Cache.leads_put h with ⟨-, hr⟩ | ⟨_, -, hr⟩ <;> cases hr

end RequestScript
