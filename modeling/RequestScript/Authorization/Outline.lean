import RequestScript.Authorization

namespace RequestScript

/-- Entries with commas between them. -/
def separated : List (List Char) → List Char
  | [] => []
  | [entry] => entry
  | entry :: rest => entry ++ ',' :: ' ' :: separated rest

namespace Word

mutual

/-- The tree of a word on one line. -/
def outline : Word → List Char
  | literal text => "Literal(".toList ++ quoted text.toList ++ [')']
  | reference name => "Variable(".toList ++ quoted name.toList ++ [')']
  | compound parts => "Compound([".toList ++ separated (outlines parts) ++ [']', ')']

def outlines : List Word → List (List Char)
  | [] => []
  | part :: parts => outline part :: outlines parts

end

end Word

namespace Authorization

/-- A claim that words give, on one line. -/
def claimOutline (claim : String × List Word) : List Char :=
  '(' :: (quoted claim.1.toList ++ ", [".toList ++ separated (Word.outlines claim.2) ++ [']', ')'])

/-- An authorization on one line; what stands in place of the secret is always the same. -/
def outline : Authorization → String
  | basic user pass => String.ofList
    ("Basic \x7b user: ".toList ++ user.outline ++ ", pass: ".toList ++ pass.outline ++ [' ', '\x7d'])
  | bearer token => String.ofList ("Bearer \x7b token: ".toList ++ token.outline ++ [' ', '\x7d'])
  | claims entries algorithm _ => String.ofList
    ("JwtClaims \x7b claims: [".toList ++ separated (entries.map claimOutline) ++
      "], algorithm: ".toList ++ quoted algorithm.toList ++
      ", secret: \"<redacted>\" \x7d".toList)

end Authorization

end RequestScript
