import RequestScript.Json
import RequestScript.Text.Digits

namespace RequestScript.Json

/-- The form of one character inside a JSON string. -/
def escapeChar (c : Char) : List Char :=
  if c = '"' then ['\\', '"']
  else if c = '\\' then ['\\', '\\']
  else if c = '\x08' then ['\\', 'b']
  else if c = '\x0c' then ['\\', 'f']
  else if c = '\n' then ['\\', 'n']
  else if c = '\r' then ['\\', 'r']
  else if c = '\t' then ['\\', 't']
  else if c.toNat < 0x20 then
    ['\\', 'u', '0', '0', hexDigit (c.toNat / 16), hexDigit (c.toNat % 16)]
  else [c]

/-- A text as a JSON string. -/
def quotedString (text : List Char) : List Char :=
  '"' :: (text.flatMap escapeChar ++ ['"'])

mutual

/-- A value on one line without blanks. -/
def print : Json → List Char
  | null => ['n', 'u', 'l', 'l']
  | bool true => ['t', 'r', 'u', 'e']
  | bool false => ['f', 'a', 'l', 's', 'e']
  | number value => value.toText
  | string value => quotedString value.toList
  | array [] => ['[', ']']
  | array (item :: items) => '[' :: (print item ++ printItems items)
  | object [] => ['{', '}']
  | object ((name, value) :: members) =>
    '{' :: (quotedString name.toList ++ ':' :: (print value ++ printMembers members))

/-- The items after the first, and the end of the array. -/
def printItems : List Json → List Char
  | [] => [']']
  | item :: items => ',' :: (print item ++ printItems items)

/-- The members after the first, and the end of the object. -/
def printMembers : List (String × Json) → List Char
  | [] => ['}']
  | (name, value) :: members =>
    ',' :: (quotedString name.toList ++ ':' :: (print value ++ printMembers members))

end

/-- A value as a JSON document on one line. -/
def toText (value : Json) : String :=
  String.ofList value.print

end RequestScript.Json
