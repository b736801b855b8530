import RequestScript.Text.Quoted

namespace RequestScript

/-- What a stretch of source text stands for. -/
inductive TokenKind where
  | endOfInput
  | endOfLine
  | quote
  | comment
  | identifier
  | keyword
  | macroName
  | variableName
  | string
  | number
  | dot
  | leftBrace
  | rightBrace
  | invalid
deriving DecidableEq

namespace TokenKind

def name : TokenKind → String
  | endOfInput => "EOF"
  | endOfLine => "EOL"
  | quote => "QUOTE"
  | comment => "COMMENT"
  | identifier => "IDENT"
  | keyword => "KEYWORD"
  | macroName => "MACRO"
  | variableName => "VARIABLE"
  | string => "STRING"
  | number => "NUMBER"
  | dot => "DOT"
  | leftBrace => "LBRACE"
  | rightBrace => "RBRACE"
  | invalid => "INVALID"

def all : List TokenKind := [
  endOfInput, endOfLine, quote, comment, identifier, keyword, macroName, variableName, string,
  number, dot, leftBrace, rightBrace, invalid]

/-- The kind that is written as `name`. -/
def ofName? (name : String) : Option TokenKind :=
  all.find? fun kind => kind.name == name

/-- Scanning ends after a token of such a kind. -/
def isTerminal (kind : TokenKind) : Bool :=
  kind == endOfInput || kind == invalid

end TokenKind

/-- A place in a text; lines and columns count from one, columns by character. -/
structure Position where
  line : Nat
  column : Nat
deriving DecidableEq

namespace Position

def start : Position := ⟨1, 1⟩

/-- The place after one more character. -/
def step (position : Position) (c : Char) : Position :=
  if c = '\n' then ⟨position.line + 1, 1⟩ else ⟨position.line, position.column + 1⟩

/-- The place after a stretch of text. -/
def after (position : Position) (text : List Char) : Position :=
  text.foldl step position

theorem after_append (position : Position) (a b : List Char) :
    position.after (a ++ b) = (position.after a).after b :=
  List.foldl_append

end Position

/-- A token of source text with the place where it starts. -/
structure Token where
  kind : TokenKind
  literal : String
  position : Position
deriving DecidableEq

namespace Token

def isTerminal (token : Token) : Bool :=
  token.kind.isTerminal

/-- The token on one line: place, kind and, unless it is empty, the quoted literal. -/
def display (token : Token) : String :=
  let place := toString token.position.line ++ ":" ++ toString token.position.column
  let head := place ++ " " ++ token.kind.name
  if token.literal.isEmpty then head else head ++ " " ++ quote token.literal

end Token

end RequestScript
