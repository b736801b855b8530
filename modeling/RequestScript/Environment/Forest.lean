import RequestScript.Environment

namespace RequestScript

/-- One scope among those that several holders share. -/
structure Scope (α : Type) where
  parent : Option Nat
  bindings : Bindings α

/-- Scopes in the order of their creation. A handle is the number of a scope; whoever holds it sees
what others write there. -/
structure Forest (α : Type) where
  scopes : Array (Scope α)

abbrev Handle := Nat

namespace Forest

variable {α : Type}

def empty : Forest α :=
  ⟨#[]⟩

def parent? (forest : Forest α) (handle : Handle) : Option Handle :=
  forest.scopes[handle]?.bind Scope.parent

def bindings (forest : Forest α) (handle : Handle) : Bindings α :=
  (forest.scopes[handle]?.map Scope.bindings).getD ∅

/-- A scope followed by each scope around it, up to the root; a parent is older than its child. -/
def chain (forest : Forest α) (handle : Handle) : List Handle :=
  match forest.parent? handle with
  | none => [handle]
  | some parent => if parent < handle then handle :: forest.chain parent else [handle]
termination_by handle

/-- A new scope without bindings, and its handle. -/
def add (forest : Forest α) (parent : Option Handle) : Forest α × Handle :=
  (⟨forest.scopes.push ⟨parent, ∅⟩⟩, forest.scopes.size)

/-- A new root scope. -/
def addRoot (forest : Forest α) : Forest α × Handle :=
  forest.add none

/-- A new scope inside the one of a handle. -/
def enclose (forest : Forest α) (handle : Handle) : Forest α × Handle :=
  forest.add (some handle)

/-- Binds a name in the scope of a handle. -/
def define (forest : Forest α) (handle : Handle) (name : String) (value : α) : Forest α :=
  ⟨forest.scopes.modify handle fun scope =>
    { scope with bindings := scope.bindings.insert name value }⟩

/-- The nearest scope at or around a handle that binds a name. -/
def binder? (forest : Forest α) (handle : Handle) (name : String) : Option Handle :=
  (forest.chain handle).find? fun scope => (forest.bindings scope).contains name

/-- Changes a name where it is bound; nothing is bound anew. -/
def assign (forest : Forest α) (handle : Handle) (name : String) (value : α) :
    Except UndefinedName (Forest α) :=
  match forest.binder? handle name with
  | some scope => .ok (forest.define scope name value)
  | none => .error ⟨name⟩

/-- What the holder of a handle sees. -/
def view (forest : Forest α) (handle : Handle) : Environment α :=
  ⟨forest.bindings handle, (forest.chain handle).tail.map forest.bindings⟩

def resolve (forest : Forest α) (handle : Handle) (name : String) : Except UndefinedName α :=
  (forest.view handle).resolve name

def contains (forest : Forest α) (handle : Handle) (name : String) : Bool :=
  (forest.view handle).contains name

/-- The names bound in the scope itself, in order. -/
def identifiers (forest : Forest α) (handle : Handle) : List String :=
  (forest.bindings handle).names

/-- The number of scopes around the scope. -/
def depth (forest : Forest α) (handle : Handle) : Nat :=
  (forest.view handle).depth

end Forest

end RequestScript
