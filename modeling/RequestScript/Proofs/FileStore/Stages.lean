import RequestScript.Proofs.FileStore.Drafts
import RequestScript.Proofs.FileStore.Events
import RequestScript.Proofs.Program

namespace RequestScript

namespace FileStore

abbrev ChangeProgram :=
  HostProgram (FileStore × Except StoreError Unit)

/-- A change goes on when a request about its draft has been met, and else removes the draft. -/
def onwards (path : FilePath) (tag : List Char) (next : ChangeProgram) :
    Except FileError Unit → ChangeProgram
  | .ok () => next
  | .error error =>
    .ask (.remove (draftOf path tag)) fun _ => .done (⟨path, true⟩, .error (.file error))

def finished (path : FilePath) : ChangeProgram :=
  .done (⟨path, true⟩, .ok ())

def moving (path : FilePath) (tag : List Char) : ChangeProgram :=
  .ask (.rename (draftOf path tag) path) (onwards path tag (finished path))

def flushing (path : FilePath) (tag : List Char) : ChangeProgram :=
  .ask (.flush (draftOf path tag)) (onwards path tag (moving path tag))

def writing (path : FilePath) (tag : List Char) (bytes : Bytes) : ChangeProgram :=
  .ask (.write (draftOf path tag) bytes) (onwards path tag (flushing path tag))

def creating (path : FilePath) (tag : List Char) (bytes : Bytes) : ChangeProgram :=
  .ask (.create (draftOf path tag)) (onwards path tag (writing path tag bytes))

theorem replaceFile_eq_creating (path : FilePath) (tag : List Char) (bytes : Bytes) :
    ((HostProgram.replaceFile path (draftOf path tag) bytes).bind fun written =>
      .done (⟨path, true⟩, written.mapError .file)) = creating path tag bytes := by
  refine congrArg (Program.ask (HostRequest.create _)) (funext fun created => ?_)
  cases created with
  | error error => rfl
  | ok =>
  refine congrArg (Program.ask (HostRequest.write _ bytes)) (funext fun written => ?_)
  cases written with
  | error error => rfl
  | ok =>
  refine congrArg (Program.ask (HostRequest.flush _)) (funext fun flushed => ?_)
  cases flushed with
  | error error => rfl
  | ok =>
  refine congrArg (Program.ask (HostRequest.rename _ path)) (funext fun renamed => ?_)
  cases renamed <;> rfl

/-- How far a call has come. -/
inductive Stage where
  | starts
  | creates
  | writes
  | flushes
  | renames
  | ends

namespace Stage

/-- The file of a store with the change of a call. -/
def image (call : FileCall) (seen : Bindings String) : Bytes :=
  encodeText (StoreFile.print (call.change.apply seen))

/-- What is left of a call whose store has seen some texts. -/
def program (path : FilePath) (call : FileCall) (seen : Bindings String) : Stage → ChangeProgram
  | starts => call.change.on ⟨path, true⟩ call.tag
  | creates => creating path call.tag (image call seen)
  | writes => writing path call.tag (image call seen)
  | flushes => flushing path call.tag
  | renames => moving path call.tag
  | ends => finished path

/-- What is in the draft of a call. -/
def draft? (call : FileCall) (seen : Bindings String) : Stage → Option Bytes
  | writes => some []
  | flushes | renames => some (image call seen)
  | _ => none

def request? (path : FilePath) (call : FileCall) (seen : Bindings String) :
    Stage → Option HostRequest
  | starts => some (.read path)
  | creates => some (.create (draftOf path call.tag))
  | writes => some (.write (draftOf path call.tag) (image call seen))
  | flushes => some (.flush (draftOf path call.tag))
  | renames => some (.rename (draftOf path call.tag) path)
  | ends => none

/-- A request has been met, if there are some texts in the file. -/
def Met (path : FilePath) (texts : Bindings String) :
    (request : HostRequest) → request.Answer → Prop
  | .read _, answer => textsOf path answer = .ok texts
  | .create _, answer | .write _ _, answer | .flush _, answer | .rename _ _, answer =>
    answer = .ok ()
  | _, _ => False

/-- The next stage, if there are some texts in the file. -/
def next (call : FileCall) (texts : Bindings String) : Stage → Stage
  | starts => if call.change.isIdle texts then ends else creates
  | creates => writes
  | writes => flushes
  | flushes => renames
  | renames | ends => ends

theorem on_eq_ask (path : FilePath) (call : FileCall) : ∃ rest,
    program path call ∅ starts = .ask (.read path) rest ∧
      ∀ answer texts, textsOf path answer = .ok texts →
        rest answer = (next call texts starts).program path call texts := by
  refine ⟨_, StoreChange.on_eq path call.tag call.change, fun answer texts h => ?_⟩
  rw [h, next]
  by_cases hi : call.change.isIdle texts = true
  · rw [StoreChange.carryOut_of_isIdle hi, if_pos hi]
    rfl
  · rw [StoreChange.carryOut, if_neg hi, if_neg hi, Program.bind_assoc]
    exact replaceFile_eq_creating path call.tag (image call texts)

/-- A change has at most some number of requests left, if they are met. -/
def EndsWithin (path : FilePath) : Nat → ChangeProgram → Prop
  | _, .done _ => True
  | 0, .ask _ _ => False
  | n + 1, .ask request rest =>
    ∀ texts answer, Met path texts request answer → EndsWithin path n (rest answer)

theorem endsWithin_finished (path : FilePath) (n : Nat) : EndsWithin path n (finished path) := by
  cases n <;> trivial

theorem endsWithin_moving (path : FilePath) (tag : List Char) (n : Nat) :
    EndsWithin path (n + 1) (moving path tag) := by
  rintro texts _ rfl
  exact endsWithin_finished path n

theorem endsWithin_flushing (path : FilePath) (tag : List Char) (n : Nat) :
    EndsWithin path (n + 2) (flushing path tag) := by
  rintro texts _ rfl
  exact endsWithin_moving path tag n

theorem endsWithin_writing (path : FilePath) (tag : List Char) (bytes : Bytes) (n : Nat) :
    EndsWithin path (n + 3) (writing path tag bytes) := by
  rintro texts _ rfl
  exact endsWithin_flushing path tag n

theorem endsWithin_creating (path : FilePath) (tag : List Char) (bytes : Bytes) (n : Nat) :
    EndsWithin path (n + 4) (creating path tag bytes) := by
  rintro texts _ rfl
  exact endsWithin_writing path tag bytes n

theorem endsWithin_program (path : FilePath) (call : FileCall) (seen : Bindings String)
    (stage : Stage) : EndsWithin path 5 (stage.program path call seen) := by
  cases stage with
  | starts =>
    obtain ⟨rest, hask, hn⟩ := on_eq_ask path call
    show EndsWithin path 5 (program path call ∅ starts)
    rw [hask]
    intro texts answer hmet
    rw [hn answer texts hmet, next]
    split
    · exact endsWithin_finished path 4
    · exact endsWithin_creating path call.tag (image call texts) 0
  | creates => exact endsWithin_creating path call.tag (image call seen) 1
  | writes => exact endsWithin_writing path call.tag (image call seen) 2
  | flushes => exact endsWithin_flushing path call.tag 3
  | renames => exact endsWithin_moving path call.tag 4
  | ends => exact endsWithin_finished path 5

theorem request?_of_program {path : FilePath} {call : FileCall} {seen : Bindings String}
    {stage : Stage} {request : HostRequest} {rest : request.Answer → ChangeProgram}
    (h : stage.program path call seen = .ask request rest) :
    stage.request? path call seen = some request := by
  cases stage with
  | starts =>
    obtain ⟨first, hask, -⟩ := on_eq_ask path call
    exact congrArg some (Program.ask.inj (hask.symm.trans h)).1
  | ends => cases h
  | _ => exact congrArg some (Program.ask.inj h).1

/-- A request ends its call if it replaces the file, or shows that there is nothing to change. -/
theorem follows {path : FilePath} {call : FileCall} {held seen after : Bindings String}
    {log : List FileEvent} {stage : Stage} {request : HostRequest}
    (hr : stage.request? path call seen = some request) :
    FileEvent.Follows held log ⟨call, request,
      ((stage.next call (FileEvent.shownAfter held log).texts).program path call after).value?.map
        Prod.snd⟩ := by
  cases stage with
  | starts =>
    cases hr
    rw [next]
    by_cases hi : call.change.isIdle (FileEvent.shownAfter held log).texts = true
    · rw [if_pos hi]
      exact Or.inr ⟨rfl, Or.inr ⟨⟨path, rfl⟩, hi⟩⟩
    · rw [if_neg hi]
      exact Or.inl ⟨rfl, FileEvent.not_replaces_of_looks ⟨path, rfl⟩⟩
  | renames =>
    cases hr
    exact Or.inr ⟨rfl, Or.inl ⟨_, _, rfl⟩⟩
  | ends => cases hr
  | _ =>
    cases hr
    exact Or.inl ⟨rfl, by rintro ⟨source, target, h⟩; cases h⟩

end Stage

end FileStore

end RequestScript
