namespace RequestScript

/-- A path as it is written: names with slashes between them. -/
structure FilePath where
  text : List Char
deriving DecidableEq

namespace FilePath

def ofString (text : String) : FilePath :=
  ⟨text.toList⟩

def toString (path : FilePath) : String :=
  String.ofList path.text

def isAbsolute (path : FilePath) : Bool :=
  path.text.head? == some '/'

/-- A name that counts in a path, and the path up to its end. -/
structure Component where
  name : List Char
  upTo : List Char

/-- The component that ends where a path has been read, both given latest first. An empty name does
not count, nor does a point that is not the start of the path. -/
def componentAt (before name : List Char) : List Component :=
  if name = [] ∨ (name = ['.'] ∧ before ≠ ['.']) then [] else [⟨name.reverse, before.reverse⟩]

/-- The components of the rest of a path, behind what has been read of it and of the name that has
been started, both latest first. -/
def componentsFrom (before name : List Char) : List Char → List Component
  | [] => componentAt before name
  | c :: cs =>
    if c = '/' then componentAt before name ++ componentsFrom (c :: before) [] cs
    else componentsFrom (c :: before) (c :: name) cs

def components (path : FilePath) : List Component :=
  componentsFrom [] [] path.text

/-- The path that no component is left of. -/
def base (path : FilePath) : FilePath :=
  ⟨if path.isAbsolute then ['/'] else []⟩

/-- The paths left when components are taken away from the end, one more each time. -/
def ancestors (path : FilePath) : List FilePath :=
  match path.components.reverse with
  | [] => []
  | _ :: above => above.map (fun component => ⟨component.upTo⟩) ++ [path.base]

def parent? (path : FilePath) : Option FilePath :=
  path.ancestors.head?

/-- A path below another one; an absolute path stays what it is. -/
def join (directory path : FilePath) : FilePath :=
  if path.isAbsolute ∨ directory.text = [] then path
  else if directory.text.getLast? = some '/' then ⟨directory.text ++ path.text⟩
  else ⟨directory.text ++ '/' :: path.text⟩

/-- A file name without its last point and what follows, unless the point comes first. -/
def stem (name : List Char) : List Char :=
  let before := ((name.reverse.dropWhile (· ≠ '.')).drop 1).reverse
  if before = [] then name else before

/-- The path whose file name ends in another extension; a path without a file name stays as it
is. -/
def withExtension (path : FilePath) (extension : List Char) : FilePath :=
  match path.components.getLast? with
  | none => path
  | some component =>
    if component.name = ['.'] ∨ component.name = ['.', '.'] then path
    else
      let directory := component.upTo.take (component.upTo.length - component.name.length)
      ⟨directory ++ stem component.name ++ '.' :: extension⟩

end FilePath

/-- Why an operation on a file failed. -/
inductive FileError where
  | notFound
  | alreadyExists
  | notADirectory
  | isADirectory
  | nameTooLong
  | badName
  | badText
  | incompleteTree
  /-- a failure of another kind, in the words of whoever reports it -/
  | other (reason : String)
deriving DecidableEq

def FileError.message : FileError → String
  | notFound => "No such file or directory (os error 2)"
  | alreadyExists => "File exists (os error 17)"
  | notADirectory => "Not a directory (os error 20)"
  | isADirectory => "Is a directory (os error 21)"
  | nameTooLong => "File name too long (os error 36)"
  | badName => "file name contained an unexpected NUL byte"
  | badText => "stream did not contain valid UTF-8"
  | incompleteTree => "failed to create whole tree"
  | other reason => reason

end RequestScript
