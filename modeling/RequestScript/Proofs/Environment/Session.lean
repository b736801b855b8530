import RequestScript.Proofs.Environment.Embedding
import RequestScript.Word

namespace RequestScript

/-- What a request does with one of its scopes. -/
inductive ScopeAction where
  | enclosed
  | define (name value : String)
  | assign (name value : String)
  | resolve (name : String)
  | contains (name : String)
  | identifiers
  | expand (word : Word)

/-- What a request does: it enters, which makes a scope of its own inside a shared one, or does
something with a scope of its own. It numbers these scopes in the order in which it made them. -/
inductive RequestCall where
  | enter
  | on (number : Nat) (action : ScopeAction)

inductive RequestAnswer where
  | made (number : Nat)
  | defined
  | assigned (result : Except UndefinedName Unit)
  | resolved (result : Except UndefinedName String)
  | contained (result : Bool)
  | names (result : List String)
  | expanded (result : Except ExpandError String)
  | noScope

/-- Requests at work on one forest: the shared scope that each of them starts from, and the scopes
that each has made. -/
structure Session (ι : Type) where
  base : ι → Handle
  forest : Forest String
  own : ι → List Handle

namespace Session

variable {ι : Type}

/-- The session in which no request has entered. -/
def start (shared : Forest String) (base : ι → Handle) : Session ι :=
  ⟨base, shared, fun _ => []⟩

def write (session : Session ι) (scope : Handle) (name value : String) : Session ι :=
  { session with forest := session.forest.define scope name value }

variable [DecidableEq ι]

/-- The session with one more scope of a request. -/
def make (session : Session ι) (request : ι) (parent : Handle) : Session ι :=
  { session with
    forest := (session.forest.enclose parent).1
    own := Function.update session.own request
      (session.own request ++ [(session.forest.enclose parent).2]) }

def act (session : Session ι) (request : ι) (handle : Handle) :
    ScopeAction → Session ι × RequestAnswer
  | .enclosed => (session.make request handle, .made (session.own request).length)
  | .define name value => (session.write handle name value, .defined)
  | .assign name value =>
    match session.forest.assign handle name value with
    | .ok after => ({ session with forest := after }, .assigned (.ok ()))
    | .error error => (session, .assigned (.error error))
  | .resolve name => (session, .resolved (session.forest.resolve handle name))
  | .contains name => (session, .contained (session.forest.contains handle name))
  | .identifiers => (session, .names (session.forest.identifiers handle))
  | .expand word => (session, .expanded (word.expand (session.forest.view handle)))

/-- The session after a call of a request, and the answer. -/
def perform (session : Session ι) (request : ι) : RequestCall → Session ι × RequestAnswer
  | .enter =>
    (session.make request (session.base request), .made (session.own request).length)
  | .on number action =>
    match (session.own request)[number]? with
    | some handle => session.act request handle action
    | none => (session, .noScope)

/-- The session after the calls of all requests, in the order in which they are made, and the
answers. -/
def run (session : Session ι) : List (ι × RequestCall) → Session ι × List (ι × RequestAnswer)
  | [] => (session, [])
  | (request, call) :: calls =>
    let after := (session.perform request call).1.run calls
    (after.1, (request, (session.perform request call).2) :: after.2)

/-- The calls that a request makes, in its own order. -/
def callsOf (request : ι) (calls : List (ι × RequestCall)) : List (ι × RequestCall) :=
  calls.filter fun call => call.1 = request

/-- The answers that a request has been given. -/
def answersTo (request : ι) (answers : List (ι × RequestAnswer)) : List RequestAnswer :=
  (answers.filter fun answer => answer.1 = request).map Prod.snd

/-- A call writes no shared scope: a name that it assigns is bound in a scope of the request itself,
or not at all. -/
def Spares (session : Session ι) (request : ι) : RequestCall → Prop
  | .on number (.assign name _) => ∀ handle ∈ (session.own request)[number]?, ∀ scope,
    session.forest.Finds name handle scope → scope ∈ session.own request
  | _ => True

/-- None of the calls writes a shared scope. -/
def SparesAll (session : Session ι) : List (ι × RequestCall) → Prop
  | [] => True
  | (request, call) :: calls =>
    session.Spares request call ∧ (session.perform request call).1.SparesAll calls

/-- All that a call that spares the shared scopes can change. -/
inductive Changes (session : Session ι) (request : ι) : Session ι → Prop
  | nothing : Changes session request session
  | scope {parent : Handle}
      (hp : parent = session.base request ∨ parent ∈ session.own request) :
      Changes session request (session.make request parent)
  | binding {scope : Handle} (hs : scope ∈ session.own request) (name value : String) :
      Changes session request (session.write scope name value)

variable {session : Session ι} {request : ι}

theorem own_make_self (session : Session ι) (request : ι) (parent : Handle) :
    (session.make request parent).own request =
      session.own request ++ [session.forest.scopes.size] :=
  Function.update_self _ _ _

theorem own_make_of_ne {other : ι} (h : other ≠ request) (parent : Handle) :
    (session.make request parent).own other = session.own other :=
  Function.update_of_ne h _ _

theorem mem_own_make {parent : Handle} {other : ι} {scope : Handle} :
    scope ∈ (session.make request parent).own other ↔
      scope ∈ session.own other ∨ (other = request ∧ scope = session.forest.scopes.size) := by
  by_cases ho : other = request
  · subst ho
    rw [own_make_self, List.mem_append, List.mem_singleton, eq_self_iff_true, true_and]
  · rw [own_make_of_ne ho]
    exact ⟨Or.inl, fun hm => hm.resolve_right fun hn => ho hn.1⟩

theorem callsOf_cons_self (request : ι) (call : RequestCall) (calls : List (ι × RequestCall)) :
    callsOf request ((request, call) :: calls) = (request, call) :: callsOf request calls :=
  List.filter_cons_of_pos (decide_eq_true rfl)

theorem callsOf_cons_of_ne {other : ι} (h : other ≠ request) (call : RequestCall)
    (calls : List (ι × RequestCall)) :
    callsOf request ((other, call) :: calls) = callsOf request calls :=
  List.filter_cons_of_neg (by simpa using h)

theorem answersTo_run_self (session : Session ι) (request : ι) (call : RequestCall)
    (calls : List (ι × RequestCall)) :
    answersTo request (session.run ((request, call) :: calls)).2 =
      (session.perform request call).2 ::
        answersTo request ((session.perform request call).1.run calls).2 := by
  simp only [run, answersTo, List.filter_cons_of_pos, decide_true, List.map_cons]

theorem answersTo_run_of_ne {other : ι} (h : other ≠ request) (call : RequestCall)
    (calls : List (ι × RequestCall)) :
    answersTo request (session.run ((other, call) :: calls)).2 =
      answersTo request ((session.perform other call).1.run calls).2 := by
  simp only [run, answersTo, List.filter_cons, h, decide_false, Bool.false_eq_true, if_false]

theorem act_assign_of_binder? {handle scope : Handle} {name : String} (value : String)
    (h : session.forest.binder? handle name = some scope) :
    session.act request handle (.assign name value) =
      (session.write scope name value, .assigned (.ok ())) := by
  simp only [act, Forest.assign, h, write]

theorem act_assign_of_not_bound {handle : Handle} {name : String} (value : String)
    (h : session.forest.binder? handle name = none) :
    session.act request handle (.assign name value) =
      (session, .assigned (.error ⟨name⟩)) := by
  simp only [act, Forest.assign, h]

theorem perform_on {number : Nat} {handle : Handle}
    (h : (session.own request)[number]? = some handle) (action : ScopeAction) :
    session.perform request (.on number action) = session.act request handle action := by
  simp only [perform, h]

theorem perform_on_none {number : Nat} (h : (session.own request)[number]? = none)
    (action : ScopeAction) : session.perform request (.on number action) = (session, .noScope) := by
  simp only [perform, h]

theorem changes_perform (ho : session.forest.Ordered) {call : RequestCall}
    (h : session.Spares request call) :
    Changes session request (session.perform request call).1 := by
  cases call with
  | enter => exact .scope (Or.inl rfl)
  | on number action =>
    cases hn : (session.own request)[number]? with
    | none =>
      rw [perform_on_none hn]
      exact .nothing
    | some handle =>
      have hm : handle ∈ session.own request := List.mem_of_getElem? hn
      rw [perform_on hn]
      cases action with
      | enclosed => exact .scope (Or.inr hm)
      | define name value => exact .binding hm name value
      | assign name value =>
        cases hb : session.forest.binder? handle name with
        | none =>
          rw [act_assign_of_not_bound value hb]
          exact .nothing
        | some scope =>
          rw [act_assign_of_binder? value hb]
          exact .binding (h handle hn scope ((Forest.binder?_eq_some_iff ho).mp hb)) name value
      | resolve name => exact .nothing
      | contains name => exact .nothing
      | identifiers => exact .nothing
      | expand word => exact .nothing

end Session

end RequestScript
