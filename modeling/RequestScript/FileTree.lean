import RequestScript.FilePath
import RequestScript.Text.Utf8

namespace RequestScript

inductive FileNode where
  | directory
  | file (content : Bytes)
deriving DecidableEq

/-- The names that lead from the root of a tree to a node. -/
abbrev Location := List String

/-- Files and directories below a root, and the directory at which relative paths start. -/
structure FileTree where
  nodes : List (Location × FileNode)
  current : Location

/-- What a path leads to: a node, or a name that is free in a directory. -/
inductive Place where
  | taken (location : Location) (node : FileNode)
  | vacant (directory : Location) (name : String)

namespace FileTree

/-- A tree of nothing but a directory below the root, at which relative paths start. -/
def ofDirectory (name : String) : FileTree :=
  ⟨[([name], .directory)], [name]⟩

def find? (tree : FileTree) (location : Location) : Option FileNode :=
  if location = [] then some .directory else tree.nodes.lookup location

/-- The tree with a node at a location, whatever was there. -/
def put (tree : FileTree) (location : Location) (node : FileNode) : FileTree :=
  { tree with nodes := (location, node) :: tree.nodes.filter fun entry => entry.1 != location }

def erase (tree : FileTree) (location : Location) : FileTree :=
  { tree with nodes := tree.nodes.filter fun entry => entry.1 != location }

/-- The tree without a node and all below it. -/
def eraseAll (tree : FileTree) (location : Location) : FileTree :=
  { tree with nodes := tree.nodes.filter fun entry => !location.isPrefixOf entry.1 }

/-- The bytes that a name may have. -/
def maxName : Nat := 255

/-- The bytes that a path may have. -/
def maxPath : Nat := 4095

/-- Where names lead from a location. -/
def walk (tree : FileTree) (here : Location) : List String → Except FileError Place
  | [] =>
    match tree.find? here with
    | some node => .ok (.taken here node)
    | none => .error .notFound
  | name :: rest =>
    match tree.find? here with
    | none => .error .notFound
    | some (.file _) => .error .notADirectory
    | some .directory =>
      if name = "." then tree.walk here rest
      else if name = ".." then tree.walk here.dropLast rest
      else if maxName < name.utf8ByteSize then .error .nameTooLong
      else
        match tree.find? (here ++ [name]), rest with
        | none, [] => .ok (.vacant here name)
        | none, _ :: _ => .error .notFound
        | some _, rest => tree.walk (here ++ [name]) rest

/-- The names between the slashes of a path. -/
def namesOf (path : FilePath) : List String :=
  (path.toString.splitOn "/").filter (· ≠ "")

def endsInSlash (path : FilePath) : Bool :=
  path.text.getLast? == some '/'

/-- Where a path starts. -/
def startOf (tree : FileTree) (path : FilePath) : Location :=
  if path.isAbsolute then [] else tree.current

/-- A path that no tree can have. -/
def refusal? (path : FilePath) : Option FileError :=
  if path.text.contains '\x00' then some .badName
  else if path.text = [] then some .notFound
  else if maxPath < path.toString.utf8ByteSize then some .nameTooLong
  else none

/-- Where a path leads; behind a slash at its end there can be no file. -/
def locate (tree : FileTree) (path : FilePath) : Except FileError Place :=
  match refusal? path with
  | some error => .error error
  | none =>
    match tree.walk (tree.startOf path) (namesOf path) with
    | .ok (.taken location (.file content)) =>
      if endsInSlash path then .error .notADirectory
      else .ok (.taken location (.file content))
    | result => result

/-- The directory that holds the last name of a path. -/
def locateParent (tree : FileTree) (path : FilePath) : Except FileError Location :=
  match refusal? path with
  | some error => .error error
  | none =>
    match tree.walk (tree.startOf path) (namesOf path).dropLast with
    | .ok (.taken location .directory) => .ok location
    | .ok (.taken _ (.file _)) => .error .notADirectory
    | .ok (.vacant _ _) => .error .notFound
    | .error error => .error error

/-- Where a file can be put: a path with a slash at its end is refused with `slash`. -/
def locateFile (tree : FileTree) (path : FilePath) (slash : FileError) :
    Except FileError Location := do
  if endsInSlash path then
    let _ ← tree.locateParent path
    .error slash
  match ← tree.locate path with
  | .taken _ .directory => .error .isADirectory
  | .taken location (.file _) => .ok location
  | .vacant directory name => .ok (directory ++ [name])

/-- The content of a file and its location. -/
def fileAt (tree : FileTree) (path : FilePath) : Except FileError (Location × Bytes) := do
  match ← tree.locate path with
  | .taken _ .directory => .error .isADirectory
  | .taken location (.file content) => .ok (location, content)
  | .vacant _ _ => .error .notFound

def read (tree : FileTree) (path : FilePath) : Except FileError Bytes :=
  (tree.fileAt path).map Prod.snd

/-- An empty file, in place of a file that may be there. -/
def create (tree : FileTree) (path : FilePath) : Except FileError FileTree := do
  return tree.put (← tree.locateFile path .isADirectory) (.file [])

/-- A file with more bytes at its end. -/
def write (tree : FileTree) (path : FilePath) (bytes : Bytes) : Except FileError FileTree := do
  let (location, content) ← tree.fileAt path
  return tree.put location (.file (content ++ bytes))

/-- A file moved to another place, where a file may be. -/
def rename (tree : FileTree) (source target : FilePath) : Except FileError FileTree := do
  let (location, content) ← tree.fileAt source
  let destination ← tree.locateFile target .notADirectory
  return (tree.erase location).put destination (.file content)

def remove (tree : FileTree) (path : FilePath) : Except FileError FileTree := do
  return tree.erase (← tree.fileAt path).1

def makeDirectory (tree : FileTree) (path : FilePath) : Except FileError FileTree := do
  match ← tree.locate path with
  | .taken _ _ => .error .alreadyExists
  | .vacant directory name => .ok (tree.put (directory ++ [name]) .directory)

/-- The node that a path leads to. -/
def node? (tree : FileTree) (path : FilePath) : Option FileNode :=
  match tree.locate path with
  | .ok (.taken _ node) => some node
  | _ => none

def isFile (tree : FileTree) (path : FilePath) : Bool :=
  match tree.node? path with
  | some (.file _) => true
  | _ => false

def isDirectory (tree : FileTree) (path : FilePath) : Bool :=
  tree.node? path == some .directory

/-- The paths of all nodes below the current directory in order, directories with a slash. -/
def listing (tree : FileTree) : List String :=
  let below := tree.nodes.filter fun entry =>
    tree.current.isPrefixOf entry.1 && entry.1 != tree.current
  let paths := below.map fun entry =>
    String.intercalate "/" (entry.1.drop tree.current.length) ++
      if entry.2 = .directory then "/" else ""
  paths.mergeSort fun a b => !(b < a)

end FileTree

end RequestScript
