import RequestScript.Url
import RequestScript.Url.Path

namespace RequestScript.Url

/-- A raw text without controls and blanks around it and without tabs and line ends in it. -/
def cleaned (text : List Char) : List Char :=
  let noise (c : Char) : Bool := c.toNat ≤ 0x20
  let inner := ((text.dropWhile noise).reverse.dropWhile noise).reverse
  inner.filter fun c => c != '\t' && c != '\n' && c != '\r'

def isSchemeChar (c : Char) : Bool :=
  c.isAlphanum || c == '+' || c == '-' || c == '.'

/-- The scheme in lower case, and what follows its colon. -/
def splitScheme (text : List Char) : Option (List Char × List Char) :=
  let scheme := text.takeWhile isSchemeChar
  match text.dropWhile isSchemeChar with
  | ':' :: rest =>
    if scheme.head?.any Char.isAlpha then some (scheme.map Char.toLower, rest) else none
  | _ => none

/-- The port that needs not be written. -/
def defaultPort (scheme : List Char) : Option Nat :=
  let name := String.ofList scheme
  if name = "http" ∨ name = "ws" then some 80
  else if name = "https" ∨ name = "wss" then some 443
  else if name = "ftp" then some 21
  else none

/-- Query and fragment at the end of a URL. -/
structure Tail where
  query : Option (List Char)
  fragment : Option (List Char)

def parseFragment : List Char → Option (List Char)
  | '#' :: rest => some (percentEncode inFragmentSet rest)
  | _ => none

def parseTail (kind : SchemeKind) (text : List Char) : Tail :=
  match text with
  | '?' :: rest =>
    let query := rest.takeWhile (· != '#')
    ⟨some (percentEncode (inQuerySet kind.isSpecial) query),
      parseFragment (rest.dropWhile (· != '#'))⟩
  | text => ⟨none, parseFragment text⟩

/-- Characters at which a path ends. -/
def endsPath (c : Char) : Bool :=
  c == '?' || c == '#'

/-- Characters at which an authority ends. -/
def endsAuthority (kind : SchemeKind) (c : Char) : Bool :=
  kind.isSlash c || endsPath c

/-- An address in brackets. -/
def bracketedHost (text : List Char) : Except UrlError Host :=
  if text.getLast? = some ']' then
    match ipv6? (text.drop 1).dropLast with
    | some pieces => .ok (.ipv6 pieces)
    | none => .error .badIpv6
  else .error .badIpv6

/-- The host of a special scheme: an address, or a domain name in ASCII form. -/
def specialHost (text : List Char) : Except UrlError Host :=
  if text.head? = some '[' then bracketedHost text
  else
    match (allChars? (decodeBytes (percentDecode text))).bind Domain.toAscii? with
    | none => .error .badDomain
    | some [] => .error .emptyHost
    | some name =>
      if endsInNumber name then
        match ipv4? name with
        | some address => .ok (.ipv4 address)
        | none => .error .badIpv4
      else .ok (.domain name)

/-- Characters that no host of a general scheme holds. -/
def isForbiddenInHost (c : Char) : Bool :=
  "\x00\t\n\r #/:<>?@[\\]^|".toList.contains c

/-- The host of a scheme that is not special. -/
def generalHost (text : List Char) : Except UrlError Host :=
  if text.head? = some '[' then bracketedHost text
  else if text.any isForbiddenInHost then .error .badHostCharacter
  else .ok (.domain (percentEncode isControl text))

/-- The host at the start of a text, up to a colon outside brackets or the end of the authority. -/
def splitHost (kind : SchemeKind) (inBrackets : Bool) : List Char → List Char × List Char
  | [] => ([], [])
  | c :: cs =>
    if endsAuthority kind c ∨ (c = ':' ∧ inBrackets = false) then ([], c :: cs)
    else
      let inside := if c = '[' then true else if c = ']' then false else inBrackets
      let (host, rest) := splitHost kind inside cs
      (c :: host, rest)

/-- A port after its colon: digits up to the end of the authority, at most 65535. -/
def parsePort (scheme : List Char) (text : List Char) :
    Except UrlError (Option Nat × List Char) :=
  let digits := text.takeWhile Char.isDigit
  let rest := text.dropWhile Char.isDigit
  let port := digits.foldl (fun n c => n * 10 + (c.toNat - 0x30)) 0
  if 65535 < port then .error .badPort
  else if rest.head?.any fun c => !(c == '/' || c == '\\' || endsPath c) then .error .badPort
  else if digits = [] ∨ some port = defaultPort scheme then .ok (none, rest)
  else .ok (some port, rest)

structure UserInfo where
  username : List Char
  password : Option (List Char)

/-- User name and password; an empty password is as good as none. -/
def parseUserInfo (text : List Char) : UserInfo :=
  let username := percentEncode inUserSet (text.takeWhile (· != ':'))
  match text.dropWhile (· != ':') with
  | _ :: password =>
    ⟨username, if password = [] then none else some (percentEncode inUserSet password)⟩
  | [] => ⟨username, none⟩

/-- The text before the last at sign of an authority, and what follows it. -/
def splitUserInfo (kind : SchemeKind) (text : List Char) : Option (List Char × List Char) :=
  let authority := text.takeWhile fun c => !endsAuthority kind c
  let after := (authority.reverse.takeWhile (· != '@')).reverse
  if authority.contains '@' then
    let before := authority.take (authority.length - after.length - 1)
    some (before, text.drop (before.length + 1))
  else none

/-- Host and port of an authority, and what follows. -/
def parseHostPort (scheme : List Char) (kind : SchemeKind) (text : List Char) :
    Except UrlError (Option Host × Option Nat × List Char) := do
  let (hostText, rest) := splitHost kind false text
  if hostText = [] ∧ (kind.isSpecial ∨ rest.head? = some ':') then throw .emptyHost
  let host ← if hostText = [] then pure none
    else if kind.isSpecial then some <$> specialHost hostText
    else some <$> generalHost hostText
  match rest with
  | ':' :: rest =>
    let (port, rest) ← parsePort scheme rest
    return (host, port, rest)
  | rest => return (host, none, rest)

/-- The authority after its slashes, and what follows. User information needs a host. -/
def parseAuthority (scheme : List Char) (kind : SchemeKind) (text : List Char) :
    Except UrlError (Authority × List Char) := do
  match splitUserInfo kind text with
  | none =>
    let (host, port, rest) ← parseHostPort scheme kind text
    return (⟨[], none, host, port⟩, rest)
  | some (before, after) =>
    if before = [] ∧ after.head?.any (endsAuthority kind) then throw .emptyHost
    let info := parseUserInfo before
    let (host, port, rest) ← parseHostPort scheme kind after
    if host.isNone ∧ (info.username ≠ [] ∨ info.password.isSome) then throw .emptyHost
    return (⟨info.username, info.password, host, port⟩, rest)

/-- The path after an authority. A special URL has one in any case, and any other one that starts
with a slash if it is there at all. -/
def parsePathAfterAuthority (kind : SchemeKind) (raw : List Char) : PathState :=
  if kind.isSpecial then
    match raw with
    | c :: rest => parsePath kind ['/'] true (if kind.isSlash c then rest else c :: rest)
    | [] => parsePath kind ['/'] true []
  else
    match raw with
    | [] => ⟨[], true⟩
    | '/' :: rest => parsePath kind ['/'] true rest
    | raw => parsePath kind ['/'] true raw

/-- A URL of a scheme with a host, once its slashes are read. -/
def parseWithAuthority (scheme : List Char) (kind : SchemeKind) (text : List Char) :
    Except UrlError Url := do
  let (authority, rest) ← parseAuthority scheme kind text
  let path := parsePathAfterAuthority kind (rest.takeWhile fun c => !endsPath c)
  let tail := parseTail kind (rest.dropWhile fun c => !endsPath c)
  return ⟨scheme, some authority, path.path, tail.query, tail.fragment⟩

/-- A URL of a scheme that is not special. -/
def parseGeneral (scheme : List Char) (text : List Char) : Except UrlError Url :=
  let raw := text.takeWhile fun c => !endsPath c
  let tail := parseTail .general (text.dropWhile fun c => !endsPath c)
  match text with
  | '/' :: '/' :: rest => parseWithAuthority scheme .general rest
  | '/' :: _ =>
    .ok ⟨scheme, none, (parsePath .general ['/'] true (raw.drop 1)).path, tail.query, tail.fragment⟩
  | _ => .ok ⟨scheme, none, percentEncode isControl raw, tail.query, tail.fragment⟩

/-- The host of a file, where the local one goes without saying. -/
def fileHost (text : List Char) : Except UrlError (Option Host) := do
  match ← specialHost text with
  | .domain name => return if name = "localhost".toList then none else some (.domain name)
  | host => return some host

/-- The URL of a file on a host; a path that starts with a drive has none. -/
def fileUrl (host : Option Host) (path : PathState) (tail : Tail) : Url :=
  let authority : Authority := ⟨[], none, if path.keepsHost then host else none, none⟩
  ⟨"file".toList, some authority, path.path, tail.query, tail.fragment⟩

/-- A file URL: two slashes announce a host, which a drive is not. -/
def parseFile (text : List Char) : Except UrlError Url := do
  let raw := text.takeWhile fun c => !endsPath c
  let tail := parseTail .file (text.dropWhile fun c => !endsPath c)
  match raw with
  | a :: b :: rest =>
    if SchemeKind.file.isSlash a && SchemeKind.file.isSlash b then
      let hostText := rest.takeWhile fun c => !SchemeKind.file.isSlash c
      let after := rest.dropWhile fun c => !SchemeKind.file.isSlash c
      if isDrive hostText then return fileUrl none (parsePath .file ['/'] true rest) tail
      else if hostText = [] then return fileUrl none (parsePath .file ['/'] true after) tail
      else
        match ← fileHost hostText with
        | none => return fileUrl none (parsePath .file ['/'] true after) tail
        | some host => return fileUrl (some host) (parsePathAfterAuthority .file after) tail
    else if SchemeKind.file.isSlash a then
      return fileUrl none (parsePath .file ['/'] true (b :: rest)) tail
    else return fileUrl none (parsePath .file ['/'] true raw) tail
  | [a] =>
    let inner := if SchemeKind.file.isSlash a then [] else [a]
    return fileUrl none (parsePath .file ['/'] true inner) tail
  | [] => return fileUrl none (parsePath .file ['/'] true []) tail

/-- The absolute URL that a text is. -/
def parse (text : List Char) : Except UrlError Url :=
  match splitScheme (cleaned text) with
  | none => .error .relative
  | some (scheme, rest) =>
    match SchemeKind.of scheme with
    | .file => parseFile rest
    | .web => parseWithAuthority scheme .web (rest.dropWhile SchemeKind.web.isSlash)
    | .general => parseGeneral scheme rest

end RequestScript.Url
