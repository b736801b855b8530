import RequestScript.Url.Address
import RequestScript.Url.Percent

namespace RequestScript

namespace Url

inductive Host where
  | domain (name : List Char)
  | ipv4 (address : Nat)
  | ipv6 (pieces : List Nat)

def Host.toText : Host → List Char
  | domain name => name
  | ipv4 address => ipv4Text address
  | ipv6 pieces => ipv6Text pieces

/-- What stands between the two slashes of a URL and its path. -/
structure Authority where
  username : List Char
  password : Option (List Char)
  host : Option Host
  port : Option Nat

/-- An authority that names nothing, as in `file:///`. -/
def Authority.blank : Authority :=
  ⟨[], none, none, none⟩

end Url

/-- An absolute URL, each part in its encoded form. -/
structure Url where
  scheme : List Char
  authority : Option Url.Authority
  path : List Char
  query : Option (List Char)
  fragment : Option (List Char)

/-- Why a text is no absolute URL. -/
inductive UrlError where
  | relative
  | emptyHost
  | badDomain
  | badPort
  | badIpv4
  | badIpv6
  | badHostCharacter
deriving DecidableEq

def UrlError.message : UrlError → String
  | relative => "relative reference; an absolute URL with a scheme is required"
  | emptyHost => "empty host"
  | badDomain => "invalid international domain name"
  | badPort => "invalid port number"
  | badIpv4 => "invalid IPv4 address"
  | badIpv6 => "invalid IPv6 address"
  | badHostCharacter => "invalid domain character"

namespace Url

def username (url : Url) : List Char :=
  (url.authority.map Authority.username).getD []

def password (url : Url) : Option (List Char) :=
  url.authority.bind Authority.password

def host (url : Url) : Option (List Char) :=
  (url.authority.bind Authority.host).map Host.toText

def port (url : Url) : Option Nat :=
  url.authority.bind Authority.port

namespace Authority

/-- User name and password with the sign that ends them, unless there are none. -/
def userText (authority : Authority) : List Char :=
  match authority.password with
  | some password => authority.username ++ ':' :: (password ++ ['@'])
  | none => if authority.username = [] then [] else authority.username ++ ['@']

def toText (authority : Authority) : List Char :=
  let host := (authority.host.map Host.toText).getD []
  let port := match authority.port with
    | some n => ':' :: Nat.toDigits 10 n
    | none => []
  '/' :: '/' :: (authority.userText ++ host ++ port)

end Authority

/-- The whole URL. Without an authority, a path that starts like one is kept apart by `/.`. -/
def href (url : Url) : List Char :=
  let front := match url.authority with
    | some authority => authority.toText
    | none => if ['/', '/'].isPrefixOf url.path then ['/', '.'] else []
  let query := match url.query with
    | some text => '?' :: text
    | none => []
  let fragment := match url.fragment with
    | some text => '#' :: text
    | none => []
  url.scheme ++ ':' :: (front ++ url.path ++ query ++ fragment)

end Url

end RequestScript
