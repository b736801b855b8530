import RequestScript.Bindings

namespace RequestScript

/-- A name that no scope around a lookup binds. -/
structure UndefinedName where
  name : String
deriving DecidableEq

def UndefinedName.message (error : UndefinedName) : String :=
  "identifier not defined: " ++ error.name

/-- A scope of bindings with the scopes that enclose it, innermost first. -/
structure Environment (α : Type) where
  scope : Bindings α
  enclosing : List (Bindings α)

namespace Environment

variable {α : Type}

/-- A scope of its own without bindings. -/
def root : Environment α :=
  ⟨∅, []⟩

/-- All scopes that a lookup goes through, innermost first. -/
def scopes (env : Environment α) : List (Bindings α) :=
  env.scope :: env.enclosing

/-- A new scope without bindings inside an environment. -/
def enclosed (env : Environment α) : Environment α :=
  ⟨∅, env.scopes⟩

/-- The number of scopes around the innermost one. -/
def depth (env : Environment α) : Nat :=
  env.enclosing.length

/-- Binds a name in the innermost scope. -/
def define (env : Environment α) (name : String) (value : α) : Environment α :=
  { env with scope := env.scope.insert name value }

def find? (env : Environment α) (name : String) : Option α :=
  env.scopes.findSome? fun scope => scope.find? name

/-- The value in the nearest scope that binds a name. -/
def resolve (env : Environment α) (name : String) : Except UndefinedName α :=
  match env.find? name with
  | some value => .ok value
  | none => .error ⟨name⟩

def contains (env : Environment α) (name : String) : Bool :=
  env.scopes.any fun scope => scope.contains name

/-- The environment of scopes that come outermost first; none make one empty scope. -/
def ofScopes (scopes : List (Bindings α)) : Environment α :=
  match scopes.reverse with
  | [] => root
  | scope :: enclosing => ⟨scope, enclosing⟩

end Environment

end RequestScript
