import RequestScript.Keywords
import RequestScript.Text.Character
import RequestScript.Token

namespace RequestScript

/-- The two marks that open and close a quoted region. -/
inductive QuoteSigil where
  | double
  | back
deriving DecidableEq

namespace QuoteSigil

def char : QuoteSigil → Char
  | double => '\x22'
  | back => '\x60'

def ofChar? (c : Char) : Option QuoteSigil :=
  if c = double.char then some double else if c = back.char then some back else none

end QuoteSigil

/-- Spaces and tabs, which only separate tokens. -/
def isSpacing (c : Char) : Bool :=
  c == ' ' || c == '\t'

/-- Spacing and line ends. -/
def isLayout (c : Char) : Bool :=
  c == ' ' || c == '\t' || c == '\r' || c == '\n'

def isQuoteSigil (c : Char) : Bool :=
  (QuoteSigil.ofChar? c).isSome

/-- Characters that end a bare identifier. -/
def isDelimiter (c : Char) : Bool :=
  isLayout c || isQuoteSigil c || c == '.' || c == '{' || c == '}' || c == '$'

/-- Characters that end a bare word. -/
def endsBareWord (c : Char) : Bool :=
  isLayout c || isQuoteSigil c || c == '$'

def isNameStart (c : Char) : Bool :=
  isAlphabetic c || c == '_'

def isNamePart (c : Char) : Bool :=
  isAlphanumeric c || c == '_'

/-- Whether a text starts with a variable or macro name. -/
def startsName (text : List Char) : Bool :=
  text.head?.any isNameStart

/-- The lines of a text, each with the newline that ends it. -/
def splitLines : List Char → List (List Char)
  | [] => []
  | c :: cs =>
    if c = '\n' then [c] :: splitLines cs
    else match splitLines cs with
      | [] => [[c]]
      | line :: lines => (c :: line) :: lines

theorem flatten_splitLines (text : List Char) : (splitLines text).flatten = text := by
  induction text with
  | nil => rfl
  | cons c cs ih =>
    simp only [splitLines]
    split
    · simp [ih]
    · split
      next h => simp [h] at ih; simp [← ih]
      next line lines h => simp [h] at ih; simp [ih]

/-- A line without the newline that ends it and one carriage return before that. -/
def stripLineEnd (line : List Char) : List Char :=
  let body := if line.getLast? = some '\n' then line.dropLast else line
  if body.getLast? = some '\r' then body.dropLast else body

/-- The text of heredoc lines: blank lines vanish, the others join without separators. -/
def heredocText (lines : List (List Char)) : List Char :=
  lines.flatMap fun line => if isBlank line then [] else stripLineEnd line

/-- What the first character of a lexeme outside a quoted region announces. -/
inductive Opening where
  | atSign
  | numberSign
  | digit
  | dot
  | leftBrace
  | rightBrace
  | lineEnd
  | sigil
  | apostrophe
  | dollar
  | heredoc
  | letter
  | other
deriving DecidableEq

/-- The announcement of a character; only the heredoc's depends on the character after it. -/
def Opening.of (c : Char) (next : Option Char) : Opening :=
  match c with
  | '@' => atSign
  | '#' => numberSign
  | '.' => dot
  | '{' => leftBrace
  | '}' => rightBrace
  | '\n' => lineEnd
  | '\r' => lineEnd
  | '\x22' => sigil
  | '\x60' => sigil
  | '\x27' => apostrophe
  | '$' => dollar
  | '<' => if next = some '<' then heredoc else other
  | c => if c.isDigit then digit else if isAlphabetic c then letter else other

/-- A stretch of source text read as one token, and what follows it. -/
structure Lexeme where
  kind : TokenKind
  literal : List Char
  text : List Char
  rest : List Char

namespace Lexeme

/-- The same lexeme with more read in front of it. -/
def prepend (lexeme : Lexeme) (literal text : List Char) : Lexeme :=
  { lexeme with literal := literal ++ lexeme.literal, text := text ++ lexeme.text }

/-- The macro after an at sign. -/
def readMacro (text : List Char) : Lexeme :=
  if startsName text then
    let name := text.takeWhile isNamePart
    ⟨.macroName, name, '@' :: name, text.dropWhile isNamePart⟩
  else ⟨.invalid, [], ['@'], text⟩

/-- The comment after its number sign, up to the end of the line. -/
def readComment (text : List Char) : Lexeme :=
  let body := text.takeWhile (· != '\n')
  ⟨.comment, trim body, '#' :: body, text.dropWhile (· != '\n')⟩

/-- Decimal digits, with a fraction when a digit follows the point. -/
def readNumber (text : List Char) : Lexeme :=
  let whole := text.takeWhile Char.isDigit
  match text.dropWhile Char.isDigit with
  | '.' :: d :: rest =>
    if d.isDigit then
      let number := whole ++ '.' :: d :: rest.takeWhile Char.isDigit
      ⟨.number, number, number, rest.dropWhile Char.isDigit⟩
    else ⟨.number, whole, whole, '.' :: d :: rest⟩
  | rest => ⟨.number, whole, whole, rest⟩

/-- A brace or line end `c` with the layout after it. -/
def readLayout (kind : TokenKind) (c : Char) (text : List Char) : Lexeme :=
  ⟨kind, [], c :: text.takeWhile isLayout, text.dropWhile isLayout⟩

/-- The raw text after a single quotation mark, up to the next one. -/
def readRaw (text : List Char) : Lexeme :=
  let body := text.takeWhile (· != '\x27')
  match text.dropWhile (· != '\x27') with
  | [] => ⟨.invalid, body, '\x27' :: body, []⟩
  | close :: rest => ⟨.string, body, '\x27' :: (body ++ [close]), rest⟩

/-- The variable after its dollar sign, bare or in braces. -/
def readVariable (text : List Char) : Lexeme :=
  match text with
  | '{' :: inner =>
    if startsName inner then
      let name := inner.takeWhile isNamePart
      match inner.dropWhile isNamePart with
      | '}' :: rest => ⟨.variableName, name, '$' :: '{' :: (name ++ ['}']), rest⟩
      | rest => ⟨.invalid, name, '$' :: '{' :: name, rest⟩
    else ⟨.invalid, [], ['$', '{'], inner⟩
  | text =>
    if startsName text then
      let name := text.takeWhile isNamePart
      ⟨.variableName, name, '$' :: name, text.dropWhile isNamePart⟩
    else ⟨.invalid, [], ['$'], text⟩

/-- The lines of a heredoc up to the first that is equal to the label, blanks around it apart. -/
def readHeredocBody (label : List Char) (lines : List (List Char)) : Lexeme :=
  let before := lines.takeWhile fun line => trim line != label
  match lines.dropWhile fun line => trim line != label with
  | [] => ⟨.invalid, heredocText before, before.flatten, []⟩
  | last :: after => ⟨.string, heredocText before, before.flatten ++ last, after.flatten⟩

/-- The heredoc after its two opening signs: a label line, then the body. -/
def readHeredoc (text : List Char) : Lexeme :=
  let label := text.takeWhile (· != '\n')
  match text.dropWhile (· != '\n') with
  | [] => ⟨.invalid, label, '<' :: '<' :: label, []⟩
  | newline :: body =>
    let opening := '<' :: '<' :: (label ++ [newline])
    if isBlank label then ⟨.invalid, [], opening, body⟩
    else (readHeredocBody (trim label) (splitLines body)).prepend [] opening

/-- A word that starts with a letter, up to a delimiter. -/
def readIdentifier (keywords : Keywords) (text : List Char) : Lexeme :=
  let word := text.takeWhile fun c => !isDelimiter c
  let kind := if keywords.contains (String.ofList word) then .keyword else .identifier
  ⟨kind, word, word, text.dropWhile fun c => !isDelimiter c⟩

/-- Any other text, up to layout, a quoted region or a variable. -/
def readBareWord (text : List Char) : Lexeme :=
  let word := text.takeWhile fun c => !endsBareWord c
  ⟨.string, word, word, text.dropWhile fun c => !endsBareWord c⟩

/-- The lexeme at the start of a text outside a quoted region. -/
def readPlain (keywords : Keywords) : List Char → Lexeme
  | [] => ⟨.endOfInput, [], [], []⟩
  | c :: cs =>
    match Opening.of c cs.head? with
    | .atSign => readMacro cs
    | .numberSign => readComment cs
    | .digit => readNumber (c :: cs)
    | .dot => ⟨.dot, [], [c], cs⟩
    | .leftBrace => readLayout .leftBrace c cs
    | .rightBrace => readLayout .rightBrace c cs
    | .lineEnd => readLayout .endOfLine c cs
    | .sigil => ⟨.quote, [], [c], cs⟩
    | .apostrophe => readRaw cs
    | .dollar => readVariable cs
    | .heredoc => readHeredoc cs.tail
    | .letter => readIdentifier keywords (c :: cs)
    | .other => readBareWord (c :: cs)

/-- What a backslash takes its meaning from inside a quoted region. -/
def isEscapable (sigil : QuoteSigil) (c : Char) : Bool :=
  c == '$' || c == sigil.char || c == '\\'

/-- The literal text of a quoted region, up to a variable or the closing sigil. -/
def readVerbatim (sigil : QuoteSigil) : List Char → Lexeme
  | [] => ⟨.invalid, [], [], []⟩
  | '\\' :: c :: cs =>
    if isEscapable sigil c then (readVerbatim sigil cs).prepend [c] ['\\', c]
    else (readVerbatim sigil (c :: cs)).prepend ['\\'] ['\\']
  | c :: cs =>
    if c = '$' ∨ c = sigil.char then ⟨.string, [], [], c :: cs⟩
    else (readVerbatim sigil cs).prepend [c] [c]

/-- The lexeme at the start of a text inside a quoted region. -/
def readQuoted (sigil : QuoteSigil) : List Char → Lexeme
  | [] => ⟨.invalid, [], [], []⟩
  | c :: cs =>
    if c = '$' then readVariable cs
    else if c = sigil.char then ⟨.quote, [], [c], cs⟩
    else readVerbatim sigil (c :: cs)

/-- The lexeme at the start of a text, in the quoted region of `region` if there is one. -/
def read (keywords : Keywords) (region : Option QuoteSigil) (text : List Char) : Lexeme :=
  match region with
  | none => readPlain keywords text
  | some sigil => readQuoted sigil text

/-- The quoted region after the lexeme: a quote opens one outside and closes the one inside. -/
def regionAfter (lexeme : Lexeme) (region : Option QuoteSigil) : Option QuoteSigil :=
  if lexeme.kind = .quote then
    match region with
    | none => lexeme.text.head?.bind QuoteSigil.ofChar?
    | some _ => none
  else region

end Lexeme

end RequestScript
