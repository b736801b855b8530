import RequestScript.Bindings
import RequestScript.Json.Printer
import RequestScript.Json.Reader
import RequestScript.Text.Character

namespace RequestScript.StoreFile

/-- One line of a store file. -/
def printLine (entry : String × String) : List Char :=
  ' ' :: ' ' :: (Json.quotedString entry.1.toList ++ ':' :: ' ' ::
    Json.quotedString entry.2.toList)

/-- The lines after the first, and the end of the file. -/
def printLines : List (String × String) → List Char
  | [] => ['\n', '\x7d']
  | entry :: rest => ',' :: '\n' :: (printLine entry ++ printLines rest)

/-- Texts under keys as a JSON object with a line for each key, in order. -/
def print (texts : Bindings String) : List Char :=
  match texts.pairs with
  | [] => ['\x7b', '\x7d']
  | entry :: rest => '\x7b' :: '\n' :: (printLine entry ++ printLines rest)

/-- A member of an object that is a string. -/
def entry? : Option String × Json.Raw → Option (String × String)
  | (some key, .string (some text)) => some (key, text)
  | _ => none

/-- The texts of an object whose members are all strings; of members with one name the last
counts. -/
def ofRaw? : Json.Raw → Option (Bindings String)
  | .object members => (members.mapM entry?).map Bindings.ofList
  | _ => none

/-- The texts of a store file; a blank file holds none. -/
def read? (text : String) : Option (Bindings String) :=
  if isBlank text.toList then some ∅
  else (Json.readRaw (text.toList.map some)).bind ofRaw?

end RequestScript.StoreFile
