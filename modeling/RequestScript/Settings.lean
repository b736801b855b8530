import RequestScript.Keywords
import RequestScript.Text.Character

namespace RequestScript

/-- What a user can set. -/
structure Settings where
  keywords : List String
  environmentFile : String
  cacheFile : String
  cacheTtlSecs : Nat
deriving DecidableEq

/-- Why settings are refused. -/
inductive SettingsError where
  | zeroTtl
  | badKeyword (word : String)
  | blankCacheFile
deriving DecidableEq

def SettingsError.message : SettingsError → String
  | zeroTtl => "cacheTtlSecs must be greater than 0"
  | badKeyword word => "keyword '" ++ word ++ "' must be a non-empty word"
  | blankCacheFile => "cacheFile must not be empty"

namespace Settings

def default : Settings where
  keywords := [
    "collection", "request", "before", "after", "set", "let", "with", "header", "query", "body",
    "cookie", "auth", "basic", "bearer", "jwt", "expect", "include", "get", "post", "put", "patch",
    "delete", "head", "options"]
  environmentFile := ".reqdef-env.json"
  cacheFile := ".reqdef-cache.json"
  cacheTtlSecs := 300

/-- The reserved words of a scanner that works under these settings. -/
def reserved (settings : Settings) : Keywords :=
  .ofList settings.keywords

/-- A keyword starts with a letter and holds no white space. -/
def isKeywordShaped (word : String) : Bool :=
  match word.toList with
  | [] => false
  | c :: cs => isAlphabetic c && cs.all fun c => !isWhiteSpace c

/-- The first fault of the settings: the time to live, then the keywords, then the cache file. -/
def fault? (settings : Settings) : Option SettingsError :=
  if settings.cacheTtlSecs = 0 then some .zeroTtl
  else match settings.keywords.find? fun word => !isKeywordShaped word with
    | some word => some (.badKeyword word)
    | none => if isBlank settings.cacheFile.toList then some .blankCacheFile else none

/-- The settings themselves, if they have no fault. -/
def validate (settings : Settings) : Except SettingsError Settings :=
  match settings.fault? with
  | some error => .error error
  | none => .ok settings

/-- Settings in which those of `other` have replaced all of one's own. -/
def merge (_settings other : Settings) : Settings :=
  other

end Settings

end RequestScript
