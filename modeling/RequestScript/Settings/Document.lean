import RequestScript.Json.Printer
import RequestScript.Json.Record
import RequestScript.Settings

namespace RequestScript.Settings

/-- The settings of a tree; those that it leaves out are the default ones. -/
def ofRaw? (raw : Json.Raw) : Option Settings :=
  match raw.fields? ["keywords", "environmentFile", "cacheFile", "cacheTtlSecs"] with
  | some [keywords, environmentFile, cacheFile, cacheTtlSecs] => do
    some {
      keywords := ← Json.Raw.fieldOr Json.Raw.strings? default.keywords keywords
      environmentFile := ← Json.Raw.fieldOr Json.Raw.string? default.environmentFile environmentFile
      cacheFile := ← Json.Raw.fieldOr Json.Raw.string? default.cacheFile cacheFile
      cacheTtlSecs := ← Json.Raw.fieldOr Json.Raw.natural? default.cacheTtlSecs cacheTtlSecs }
  | _ => none

/-- The settings that a text gives. -/
def read? (text : String) : Option Settings := do
  ofRaw? (← Json.readRaw (text.toList.map some))

def toJson (settings : Settings) : Json :=
  .object [
    ("keywords", .array (settings.keywords.map .string)),
    ("environmentFile", .string settings.environmentFile),
    ("cacheFile", .string settings.cacheFile),
    ("cacheTtlSecs", .number (.integer settings.cacheTtlSecs))]

/-- The section of a document that gives settings. -/
def section? (document : Json) : Option Json :=
  document.member? "reqdef"

/-- Whether a document has a section that gives no settings. -/
def isUnusable (document : Json) : Bool :=
  match section? document with
  | some given => (ofRaw? given.toRaw).isNone
  | none => false

/-- The settings of a document: without a section, or with an unusable one, the default ones. -/
def ofDocument (document : Json) : Settings :=
  match section? document with
  | some given =>
    match ofRaw? given.toRaw with
    | some settings => default.merge settings
    | none => default
  | none => default

/-- What a user is told when settings are refused. -/
def refusal (error : SettingsError) : String :=
  "Invalid configuration: " ++ error.message

/-- The settings to go on with after a document, if there is one, has been offered, and how that
went: settings with a fault leave the current ones in place. -/
def load (current : Settings) (document : Option Json) :
    Settings × Except SettingsError Settings :=
  match ((document.map ofDocument).getD default).validate with
  | .ok settings => (settings, .ok settings)
  | .error error => (current, .error error)

end RequestScript.Settings
