import RequestScript.Bindings
import RequestScript.Json.Symbol

namespace RequestScript.Json

/-- The tree of a document before it is known to be a value: numbers may be too great, strings may
be no text, and objects may name a member twice. -/
inductive Raw where
  | null
  | bool (value : Bool)
  | number (value : Option Number)
  | string (value : Option String)
  | array (items : List Raw)
  | object (members : List (Option String × Raw))

/-- A container around the place where a document is read, with what it holds so far, latest
first. -/
inductive Frame where
  | array (items : List Raw)
  | member (members : List (Option String × Raw)) (name : Option String)

/-- What the next symbol of a document may be. -/
inductive Phase where
  /-- a value -/
  | value
  /-- the first item of an array, or its end -/
  | firstItem
  /-- the first member of an object, or its end -/
  | firstMember
  /-- a further member of an object -/
  | nextMember (members : List (Option String × Raw))
  /-- the colon after a name -/
  | colon (members : List (Option String × Raw)) (name : Option String)
  /-- whatever the container of a complete value lets follow -/
  | after (value : Raw)

structure ReadState where
  frames : List Frame
  phase : Phase

namespace ReadState

def start : ReadState :=
  ⟨[], .value⟩

/-- The value that a symbol is on its own. -/
def scalar? : Symbol → Option Raw
  | .null => some .null
  | .bool value => some (.bool value)
  | .number value => some (.number value)
  | .string value => some (.string value)
  | _ => none

/-- The state after a symbol that has to begin a value. -/
def beginValue (frames : List Frame) : Symbol → Option ReadState
  | .beginArray => some ⟨.array [] :: frames, .firstItem⟩
  | .beginObject => some ⟨frames, .firstMember⟩
  | symbol => (scalar? symbol).map fun value => ⟨frames, .after value⟩

/-- The state after one more symbol, unless the symbol cannot stand there. -/
def step (state : ReadState) (symbol : Symbol) : Option ReadState :=
  match state.phase, symbol with
  | .value, symbol => beginValue state.frames symbol
  | .firstItem, .endArray =>
    match state.frames with
    | .array items :: frames => some ⟨frames, .after (.array items.reverse)⟩
    | _ => none
  | .firstItem, symbol => beginValue state.frames symbol
  | .firstMember, .endObject => some ⟨state.frames, .after (.object [])⟩
  | .firstMember, .string name => some ⟨state.frames, .colon [] name⟩
  | .nextMember members, .string name => some ⟨state.frames, .colon members name⟩
  | .colon members name, .colon => some ⟨.member members name :: state.frames, .value⟩
  | .after value, .comma =>
    match state.frames with
    | .array items :: frames => some ⟨.array (value :: items) :: frames, .value⟩
    | .member members name :: frames => some ⟨frames, .nextMember ((name, value) :: members)⟩
    | [] => none
  | .after value, .endArray =>
    match state.frames with
    | .array items :: frames => some ⟨frames, .after (.array (value :: items).reverse)⟩
    | _ => none
  | .after value, .endObject =>
    match state.frames with
    | .member members name :: frames =>
      some ⟨frames, .after (.object ((name, value) :: members).reverse)⟩
    | _ => none
  | _, _ => none

/-- The document that has been read, if it is complete. -/
def result? (state : ReadState) : Option Raw :=
  match state.frames, state.phase with
  | [], .after value => some value
  | _, _ => none

end ReadState

theorem length_dropWhile_le {α : Type} (p : α → Bool) (l : List α) :
    (l.dropWhile p).length ≤ l.length := by
  have whole := congrArg List.length (List.takeWhile_append_dropWhile (p := p) (l := l))
  simp only [List.length_append] at whole
  omega

theorem readUnits_length_lt {source after : Source} {units : Units}
    (h : readUnits source = some (units, after)) : after.length < source.length := by
  fun_induction readUnits source generalizing units with
  | case1 => simp at h
  | case2 rest ih =>
    obtain ⟨⟨u, a⟩, hr, he⟩ := Option.map_eq_some_iff.mp h
    simp only [Prod.mk.injEq] at he
    obtain ⟨_, rfl⟩ := he
    have := ih hr
    simp only [List.length_cons]
    omega
  | case3 rest => simp at h; simp [h]
  | case4 a b c d rest ih =>
    simp only [Option.bind_eq_bind, Option.bind_eq_some_iff, Option.some.injEq] at h
    obtain ⟨_, _, ⟨u, a⟩, hr, he⟩ := h
    simp only [Prod.mk.injEq] at he
    obtain ⟨_, rfl⟩ := he
    have := ih hr
    simp only [List.length_cons]
    omega
  | case5 c rest _ ih =>
    simp only [Option.bind_eq_bind, Option.bind_eq_some_iff, Option.some.injEq] at h
    obtain ⟨_, _, ⟨u, a⟩, hr, he⟩ := h
    simp only [Prod.mk.injEq] at he
    obtain ⟨_, rfl⟩ := he
    have := ih hr
    simp only [List.length_cons]
    omega
  | case6 => simp at h
  | case7 c rest _ _ _ _ ih =>
    obtain ⟨⟨u, a⟩, hr, he⟩ := Option.map_eq_some_iff.mp h
    simp only [Prod.mk.injEq] at he
    obtain ⟨_, rfl⟩ := he
    have := ih hr
    simp only [List.length_cons]
    omega

theorem splitDigits_length_le (source : Source) :
    (splitDigits source).2.length ≤ source.length :=
  length_dropWhile_le _ _

theorem splitDigits_length_lt {source : Source} (h : (splitDigits source).1 ≠ []) :
    (splitDigits source).2.length < source.length := by
  cases source with
  | nil => simp [splitDigits] at h
  | cons c cs =>
    by_cases hd : isDigit? c = true
    · have := length_dropWhile_le isDigit? cs
      simp only [splitDigits, List.dropWhile_cons, hd, if_true, List.length_cons]
      omega
    · simp [splitDigits, hd] at h

theorem readFraction_length_le {source after : Source} {digits : List Char}
    (h : readFraction source = some (digits, after)) : after.length ≤ source.length := by
  unfold readFraction at h
  split at h
  next rest =>
    have hl := splitDigits_length_le rest
    dsimp only at h
    split at h
    · simp at h
    · simp only [Option.some.injEq, Prod.mk.injEq] at h
      simp only [List.length_cons]
      rw [← h.2]
      omega
  next => simp only [Option.some.injEq, Prod.mk.injEq] at h; simp [h.2]

theorem readPower_length_le {negative : Bool} {source after : Source}
    {exponent : Option (Bool × List Char)} (h : readPower negative source = some (exponent, after)) :
    after.length ≤ source.length := by
  have hl := splitDigits_length_le source
  unfold readPower at h
  dsimp only at h
  split at h
  · simp at h
  · simp only [Option.some.injEq, Prod.mk.injEq] at h
    rw [← h.2]
    exact hl

theorem readExponent_length_le {source after : Source} {exponent : Option (Bool × List Char)}
    (h : readExponent source = some (exponent, after)) : after.length ≤ source.length := by
  unfold readExponent at h
  split at h
  case h_7 => simp only [Option.some.injEq, Prod.mk.injEq] at h; simp [h.2]
  all_goals
    have := readPower_length_le h
    simp only [List.length_cons]
    omega

theorem readNumeral_length_lt {negative : Bool} {source after : Source} {numeral : Numeral}
    (h : readNumeral negative source = some (numeral, after)) : after.length < source.length := by
  simp only [readNumeral, Option.bind_eq_bind] at h
  split at h
  · simp at h
  next hw =>
    simp only [Option.bind_eq_some_iff, Option.some.injEq, Prod.mk.injEq] at h
    obtain ⟨⟨f, r₁⟩, hf, ⟨e, r₂⟩, he, _, rfl⟩ := h
    have h₁ := @splitDigits_length_lt source fun hn => hw (Or.inl hn)
    have h₂ := readFraction_length_le hf
    have h₃ := readExponent_length_le he
    dsimp only at h₃ ⊢
    omega

theorem readNumber_length_lt {negative : Bool} {source after : Source} {symbol : Symbol}
    (h : readNumber negative source = some (symbol, after)) : after.length < source.length := by
  obtain ⟨⟨n, r⟩, hn, he⟩ := Option.map_eq_some_iff.mp h
  simp only [Prod.mk.injEq] at he
  obtain ⟨_, rfl⟩ := he
  exact readNumeral_length_lt hn

theorem Symbol.read?_length_lt {source after : Source} {symbol : Symbol}
    (h : Symbol.read? source = some (symbol, after)) : after.length < source.length := by
  unfold Symbol.read? at h
  split at h
  case h_10 rest =>
    obtain ⟨⟨u, r⟩, hu, he⟩ := Option.map_eq_some_iff.mp h
    simp only [Prod.mk.injEq] at he
    obtain ⟨_, rfl⟩ := he
    have := readUnits_length_lt hu
    simp only [List.length_cons]
    omega
  case h_11 =>
    have := readNumber_length_lt h
    simp only [List.length_cons]
    omega
  case h_12 => exact readNumber_length_lt h
  all_goals
    simp only [Option.some.injEq, Prod.mk.injEq] at h
    simp only [List.length_cons]
    rw [h.2]
    omega

/-- The symbols of a document, unless some text in it is no symbol. -/
def symbols? (source : Source) : Option (List Symbol) :=
  match _hs : source.dropWhile isBlankChar with
  | [] => some []
  | c :: cs =>
    match _h : Symbol.read? (c :: cs) with
    | none => none
    | some (symbol, after) => (symbols? after).map (symbol :: ·)
termination_by source.length
decreasing_by
  have h₁ := Symbol.read?_length_lt _h
  have h₂ := length_dropWhile_le isBlankChar source
  rw [_hs] at h₂
  omega

/-- The tree of a document. -/
def readRaw (source : Source) : Option Raw := do
  let symbols ← symbols? source
  let state ← symbols.foldlM ReadState.step ReadState.start
  state.result?

/-- How many arrays and objects a value may hold inside one another. -/
def maxDepth : Nat := 127

mutual

/-- The value of a tree whose numbers and strings are sound and whose containers are nested no
deeper than `depth`; of members with one name the last counts. -/
def Raw.value? (depth : Nat) : Raw → Option Json
  | .null => some .null
  | .bool value => some (.bool value)
  | .number value => value.map .number
  | .string value => value.map .string
  | .array items => if depth = 0 then none else (Raw.items? (depth - 1) items).map .array
  | .object members =>
    if depth = 0 then none else (Raw.members? (depth - 1) [] members).map .object

def Raw.items? (depth : Nat) : List Raw → Option (List Json)
  | [] => some []
  | item :: items => do
    let value ← Raw.value? depth item
    let values ← Raw.items? depth items
    some (value :: values)

/-- The members of an object, added to those that stand before them. -/
def Raw.members? (depth : Nat) (before : List (String × Json)) :
    List (Option String × Raw) → Option (List (String × Json))
  | [] => some before
  | (name, item) :: members => do
    let value ← Raw.value? depth item
    Raw.members? depth (insertByName (← name) value before) members

end

/-- The value of a document, its objects sorted by name. -/
def read? (text : String) : Option Json := do
  (← readRaw (text.toList.map some)).value? maxDepth

mutual

/-- The tree of a value. -/
def toRaw : Json → Raw
  | null => .null
  | bool value => .bool value
  | number value => .number (some value)
  | string value => .string (some value)
  | array items => .array (itemsToRaw items)
  | object members => .object (membersToRaw members)

def itemsToRaw : List Json → List Raw
  | [] => []
  | item :: items => toRaw item :: itemsToRaw items

def membersToRaw : List (String × Json) → List (Option String × Raw)
  | [] => []
  | (name, value) :: members => (some name, toRaw value) :: membersToRaw members

end

end RequestScript.Json
