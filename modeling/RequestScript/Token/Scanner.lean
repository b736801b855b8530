import RequestScript.Token.Tiling

namespace RequestScript

/-- What is left to scan of a source text, where that is, and the quoted region around it. -/
structure Scanner where
  keywords : Keywords
  rest : List Char
  position : Position
  region : Option QuoteSigil

namespace Scanner

/-- A source text without the byte order mark at its start. -/
def stripMark : List Char → List Char
  | [] => []
  | c :: cs => if c = '\ufeff' then cs else c :: cs

/-- The scanner at the start of a source text. -/
def ofSource (keywords : Keywords) (source : String) : Scanner :=
  ⟨keywords, stripMark source.toList, .start, none⟩

def isQuoted (scanner : Scanner) : Bool :=
  scanner.region.isSome

/-- The spacing in front of the next token; inside a quoted region there is none. -/
def gap (scanner : Scanner) : List Char :=
  match scanner.region with
  | none => scanner.rest.takeWhile isSpacing
  | some _ => []

/-- What is left after the spacing in front of the next token. -/
def afterGap (scanner : Scanner) : List Char :=
  match scanner.region with
  | none => scanner.rest.dropWhile isSpacing
  | some _ => scanner.rest

/-- The lexeme that the next token is made of. -/
def lexeme (scanner : Scanner) : Lexeme :=
  Lexeme.read scanner.keywords scanner.region scanner.afterGap

/-- The next token. -/
def token (scanner : Scanner) : Token :=
  ⟨scanner.lexeme.kind, String.ofList scanner.lexeme.literal,
    scanner.position.after scanner.gap⟩

/-- The scanner after the next token. -/
def next (scanner : Scanner) : Scanner where
  keywords := scanner.keywords
  rest := scanner.lexeme.rest
  position := (scanner.position.after scanner.gap).after scanner.lexeme.text
  region := scanner.lexeme.regionAfter scanner.region

/-- The next token with the scanner after it. -/
def scan (scanner : Scanner) : Token × Scanner :=
  (scanner.token, scanner.next)

theorem gap_append_afterGap (scanner : Scanner) : scanner.gap ++ scanner.afterGap = scanner.rest := by
  unfold gap afterGap
  cases scanner.region <;> simp

/-- Gap, lexeme text and the text left over are what there was to scan. -/
theorem gap_append_text_append_rest (scanner : Scanner) :
    scanner.gap ++ (scanner.lexeme.text ++ scanner.next.rest) = scanner.rest := by
  rw [next, lexeme, Lexeme.read_text_append, gap_append_afterGap]

theorem not_isSpacing_of_afterGap {scanner : Scanner} {c : Char} {cs : List Char}
    (hr : scanner.region = none) (h : scanner.afterGap = c :: cs) : isSpacing c = false := by
  simp only [afterGap, hr] at h
  have hc := List.head?_dropWhile_not isSpacing scanner.rest
  simpa [h] using hc

/-- A token that is not terminal has been read from some text. -/
theorem lexeme_text_ne_nil {scanner : Scanner} (h : scanner.afterGap ≠ []) :
    scanner.lexeme.text ≠ [] := by
  obtain ⟨c, cs, hc⟩ := List.exists_cons_of_ne_nil h
  unfold lexeme Lexeme.read
  split
  next hr => rw [hc]; exact Lexeme.readPlain_text_ne_nil _ cs (not_isSpacing_of_afterGap hr hc)
  next sigil _ => rw [hc]; exact Lexeme.readQuoted_text_ne_nil sigil c cs

theorem isTerminal_of_afterGap_eq_nil {scanner : Scanner} (h : scanner.afterGap = []) :
    scanner.token.isTerminal = true := by
  unfold token Token.isTerminal lexeme
  rw [h]
  cases scanner.region <;> rfl

theorem next_rest_length_le (scanner : Scanner) : scanner.next.rest.length ≤ scanner.rest.length := by
  have whole := congrArg List.length scanner.gap_append_text_append_rest
  simp only [List.length_append] at whole
  omega

theorem next_rest_length_lt {scanner : Scanner} (h : scanner.token.isTerminal = false) :
    scanner.next.rest.length < scanner.rest.length := by
  have ha : scanner.afterGap ≠ [] := by
    intro hn
    simp [isTerminal_of_afterGap_eq_nil hn] at h
  have ht := List.length_pos_iff.mpr (lexeme_text_ne_nil ha)
  have whole := congrArg List.length scanner.gap_append_text_append_rest
  simp only [List.length_append] at whole
  omega

/-- The result of `n` scans in a row, also past a terminal token; each token comes with the
scanner after it. -/
def scans : Nat → Scanner → List (Token × Scanner)
  | 0, _ => []
  | n + 1, scanner => scanner.scan :: scans n scanner.next

end Scanner

/-- The tokens of a scanner up to the first terminal one. -/
structure TokenStream where
  scanner : Scanner
  finished : Bool

namespace TokenStream

def ofScanner (scanner : Scanner) : TokenStream :=
  ⟨scanner, false⟩

/-- The next token and the stream after it, unless a terminal token has been taken. -/
def next? (stream : TokenStream) : Option (Token × TokenStream) :=
  if stream.finished then none
  else some (stream.scanner.token, ⟨stream.scanner.next, stream.scanner.token.isTerminal⟩)

/-- How many characters and terminal tokens can still be taken. -/
def remaining (stream : TokenStream) : Nat :=
  stream.scanner.rest.length + if stream.finished then 0 else 1

theorem remaining_lt_of_next? {stream after : TokenStream} {token : Token}
    (h : stream.next? = some (token, after)) : after.remaining < stream.remaining := by
  unfold next? at h
  split at h
  next => simp at h
  next hf =>
    simp only [Option.some.injEq, Prod.mk.injEq] at h
    obtain ⟨_, rfl⟩ := h
    simp only [remaining, hf]
    have hle := stream.scanner.next_rest_length_le
    cases ht : stream.scanner.token.isTerminal
    · have hlt := Scanner.next_rest_length_lt ht
      simp only [Bool.false_eq_true, ↓reduceIte]
      omega
    · simp only [Bool.false_eq_true, ↓reduceIte]
      omega

/-- All tokens that are left, and the stream after them. -/
def drain (stream : TokenStream) : List Token × TokenStream :=
  match _h : stream.next? with
  | none => ([], stream)
  | some (token, after) =>
    let (tokens, last) := after.drain
    (token :: tokens, last)
termination_by stream.remaining
decreasing_by exact remaining_lt_of_next? _h

end TokenStream

/-- The tokens of a source text, up to and including the first terminal one. -/
def tokenize (keywords : Keywords) (source : String) : List Token :=
  (TokenStream.ofScanner (.ofSource keywords source)).drain.1

end RequestScript
