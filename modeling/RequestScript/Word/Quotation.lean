import RequestScript.Token
import RequestScript.Word

namespace RequestScript

namespace Word

/-- The part of a quoted region that a token makes, if it makes any. -/
def ofToken? (token : Token) : Option Word :=
  match token.kind with
  | .string => some (literal token.literal)
  | .variableName => some (reference token.literal)
  | _ => none

/-- The words of the quoted regions in a row of tokens; `region` holds the parts of the region that
is open, latest first. A region that is not closed makes no word. -/
def ofTokensFrom (region : Option (List Word)) : List Token → List Word
  | [] => []
  | token :: rest =>
    match region, token.kind with
    | none, .quote => ofTokensFrom (some []) rest
    | none, _ => ofTokensFrom none rest
    | some parts, .quote => compound parts.reverse :: ofTokensFrom none rest
    | some parts, _ => ofTokensFrom (some ((ofToken? token).toList ++ parts)) rest

/-- The words of the quoted regions in a row of tokens. -/
def ofTokens (tokens : List Token) : List Word :=
  ofTokensFrom none tokens

end Word

end RequestScript
