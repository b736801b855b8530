import RequestScript.Url.Percent
import RequestScript.Domain

namespace RequestScript.Url

/-- How a scheme reads slashes, hosts and paths. -/
inductive SchemeKind where
  | file
  | web
  | general
deriving DecidableEq

namespace SchemeKind

def of (scheme : List Char) : SchemeKind :=
  if scheme = "file".toList then file
  else if ["http", "https", "ws", "wss", "ftp"].any fun name => name.toList == scheme then web
  else general

def isSpecial (kind : SchemeKind) : Bool :=
  kind != general

/-- Whether a character separates path segments. -/
def isSlash (kind : SchemeKind) (c : Char) : Bool :=
  c == '/' || (kind.isSpecial && c == '\\')

end SchemeKind

/-- A letter with a colon or bar, at the end of a text or before a delimiter. -/
def startsWithDrive : List Char → Bool
  | c :: mark :: rest =>
    c.isAlpha && (mark == ':' || mark == '|') &&
      (rest = [] || rest.head?.any fun d => d == '/' || d == '\\' || d == '?' || d == '#')
  | _ => false

def isDrive (segment : List Char) : Bool :=
  segment.length == 2 && startsWithDrive segment

def isNormalizedDrive (segment : List Char) : Bool :=
  isDrive segment && segment[1]? == some ':'

/-- Spellings of the segment for the directory itself. -/
def isSingleDot (segment : List Char) : Bool :=
  let text := segment.map Char.toLower
  text == ['.'] || text == ['%', '2', 'e']

/-- Spellings of the segment for the directory above. -/
def isDoubleDot (segment : List Char) : Bool :=
  let text := segment.map Char.toLower
  text == ['.', '.'] || text == ['.', '%', '2', 'e'] || text == ['%', '2', 'e', '.'] ||
    text == ['%', '2', 'e', '%', '2', 'e']

/-- A path up to and with its last slash. -/
def upToSlash (path : List Char) : List Char :=
  (path.reverse.dropWhile (· != '/')).reverse

/-- What follows the last slash of a path. -/
def afterSlash (path : List Char) : List Char :=
  (path.reverse.takeWhile (· != '/')).reverse

/-- Whether the slash at the end of a path may go: it is not the first one and no drive stands
before it. -/
def lastSlashCanGo (path : List Char) : Bool :=
  path.getLast? == some '/' && path.dropLast.contains '/' &&
    !startsWithDrive (afterSlash path.dropLast ++ ['/'])

/-- A path without its last segment, unless that is the drive of a file. -/
def dropSegment (kind : SchemeKind) (path : List Char) : List Char :=
  if kind = .file ∧ (isNormalizedDrive path ∨ isNormalizedDrive (afterSlash path)) then path
  else upToSlash path

/-- A path that ends in a slash. -/
def withSlash (path : List Char) : List Char :=
  if path.getLast? = some '/' then path else path ++ ['/']

structure PathState where
  path : List Char
  keepsHost : Bool

/-- The path after one more segment, which is followed by a slash or is the last one. -/
def PathState.push (kind : SchemeKind) (state : PathState) (raw : List Char) (slash : Bool) :
    PathState :=
  let segment := percentEncode inPathSet raw
  let ending := if slash then ['/'] else []
  if isDoubleDot segment then
    let shortened := if lastSlashCanGo state.path then state.path.dropLast else state.path
    let parent := dropSegment kind shortened
    { state with path := if slash then withSlash parent else parent }
  else if isSingleDot segment then { state with path := withSlash state.path }
  else if kind = .file ∧ state.path.length = 1 ∧ isDrive segment then
    ⟨state.path ++ segment.take 1 ++ ':' :: ending, false⟩
  else { state with path := state.path ++ segment ++ ending }

/-- The path after segments, all but the last of which are followed by slashes. -/
def pushAll (kind : SchemeKind) (state : PathState) : List (List Char) → PathState
  | [] => state
  | [last] => state.push kind last false
  | segment :: rest => pushAll kind (state.push kind segment true) rest

/-- The path that starts with `front` and goes on with a raw text; a file's path starts with one
slash only. -/
def parsePath (kind : SchemeKind) (front : List Char) (keepsHost : Bool) (raw : List Char) :
    PathState :=
  let state := pushAll kind ⟨front, keepsHost⟩ (Domain.splitBy kind.isSlash raw)
  if kind = .file then { state with path := '/' :: state.path.dropWhile (· == '/') } else state

end RequestScript.Url
