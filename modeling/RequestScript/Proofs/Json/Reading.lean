import RequestScript.Json.Reader
import RequestScript.Proofs.Json.Quoted

namespace RequestScript.Json

mutual

/-- The symbols of a value. -/
def symbols : Json → List Symbol
  | null => [.null]
  | bool value => [.bool value]
  | number value => [.number (some value)]
  | string value => [.string (some value)]
  | array [] => [.beginArray, .endArray]
  | array (item :: items) => .beginArray :: (symbols item ++ itemSymbols items)
  | object [] => [.beginObject, .endObject]
  | object ((name, value) :: members) =>
    .beginObject :: .string (some name) :: .colon :: (symbols value ++ memberSymbols members)

/-- The symbols of the items after the first, and of the end of the array. -/
def itemSymbols : List Json → List Symbol
  | [] => [.endArray]
  | item :: items => .comma :: (symbols item ++ itemSymbols items)

/-- The symbols of the members after the first, and of the end of the object. -/
def memberSymbols : List (String × Json) → List Symbol
  | [] => [.endObject]
  | (name, value) :: members =>
    .comma :: .string (some name) :: .colon :: (symbols value ++ memberSymbols members)

end

namespace ReadState

/-- A value may begin in an array where the first item is expected, as it may anywhere else. -/
theorem foldlM_step_firstItem (value : Json) (rest : List Symbol) (frames : List Frame) :
    (value.symbols ++ rest).foldlM step ⟨frames, .firstItem⟩ =
      (value.symbols ++ rest).foldlM step ⟨frames, .value⟩ := by
  unfold symbols
  split <;> rfl

mutual

/-- The symbols of a value lead from where a value is expected to where it has been read. -/
theorem foldlM_step_symbols (frames : List Frame) : (value : Json) →
    value.symbols.foldlM step ⟨frames, .value⟩ = some ⟨frames, .after value.toRaw⟩
  | null => rfl
  | bool _ => rfl
  | number _ => rfl
  | string _ => rfl
  | array [] => rfl
  | array (item :: items) => by
    rw [symbols, List.foldlM_cons]
    show (symbols item ++ itemSymbols items).foldlM step ⟨.array [] :: frames, .firstItem⟩ = _
    rw [foldlM_step_firstItem, List.foldlM_append, foldlM_step_symbols]
    exact foldlM_step_items frames [] item.toRaw items
  | object [] => rfl
  | object ((name, value) :: members) => by
    rw [symbols, List.foldlM_cons]
    show (symbols value ++ memberSymbols members).foldlM step
      ⟨.member [] (some name) :: frames, .value⟩ = _
    rw [List.foldlM_append, foldlM_step_symbols]
    exact foldlM_step_members frames [] name value.toRaw members

theorem foldlM_step_items (frames : List Frame) (before : List Raw) (last : Raw) :
    (items : List Json) →
    (itemSymbols items).foldlM step ⟨.array before :: frames, .after last⟩ =
      some ⟨frames, .after (.array (before.reverse ++ last :: itemsToRaw items))⟩
  | [] => by simp [itemSymbols, step, itemsToRaw]
  | item :: items => by
    rw [itemSymbols, List.foldlM_cons]
    show (symbols item ++ itemSymbols items).foldlM step
      ⟨.array (last :: before) :: frames, .value⟩ = _
    rw [List.foldlM_append, foldlM_step_symbols]
    show (itemSymbols items).foldlM step ⟨.array (last :: before) :: frames, .after item.toRaw⟩ = _
    rw [foldlM_step_items]
    simp [itemsToRaw]

theorem foldlM_step_members (frames : List Frame) (before : List (Option String × Raw))
    (name : String) (last : Raw) : (members : List (String × Json)) →
    (memberSymbols members).foldlM step ⟨.member before (some name) :: frames, .after last⟩ =
      some ⟨frames, .after (.object (before.reverse ++ (some name, last) :: membersToRaw members))⟩
  | [] => by simp [memberSymbols, step, membersToRaw]
  | (next, value) :: members => by
    rw [memberSymbols, List.foldlM_cons]
    show (symbols value ++ memberSymbols members).foldlM step
      ⟨.member ((some name, last) :: before) (some next) :: frames, .value⟩ = _
    rw [List.foldlM_append, foldlM_step_symbols]
    show (memberSymbols members).foldlM step
      ⟨.member ((some name, last) :: before) (some next) :: frames, .after value.toRaw⟩ = _
    rw [foldlM_step_members]
    simp [membersToRaw]

end

end ReadState

theorem symbols?_blank {c : Char} (hc : isBlankChar (some c) = true) (rest : Source) :
    symbols? (some c :: rest) = symbols? rest := by
  rw [symbols?, symbols?, List.dropWhile_cons_of_pos hc]

theorem symbols?_of_read {c : Option Char} {source rest : Source} {symbol : Symbol}
    (hc : isBlankChar c = false) (h : Symbol.read? (c :: source) = some (symbol, rest)) :
    symbols? (c :: source) = (symbols? rest).map (symbol :: ·) := by
  have hd : (c :: source).dropWhile isBlankChar = c :: source :=
    List.dropWhile_cons_of_neg (by simp [hc])
  rw [symbols?]
  split
  next hn => rw [hd] at hn; cases hn
  next c' cs' hs =>
    rw [hd] at hs
    cases hs
    split
    next hn => rw [h] at hn; cases hn
    next symbol' after ha =>
      rw [h] at ha
      cases ha
      rfl

theorem symbols?_quotedString (text : List Char) (rest : Source) :
    symbols? ((quotedString text).map some ++ rest) =
      (symbols? rest).map (.string (some (String.ofList text)) :: ·) :=
  symbols?_of_read rfl (read?_quotedString text rest)

/-- The tree of a document with the symbols of a value is the tree of this value. -/
theorem readRaw_of_symbols {source : Source} {value : Json}
    (h : symbols? source = some value.symbols) : readRaw source = some value.toRaw := by
  rw [readRaw, h]
  show (value.symbols.foldlM ReadState.step ⟨[], .value⟩).bind ReadState.result? = _
  rw [ReadState.foldlM_step_symbols]
  rfl

mutual

/-- Whether a value holds no numbers. -/
def isNumberless : Json → Bool
  | number _ => false
  | array items => areNumberless items
  | object members => haveNumberless members
  | _ => true

def areNumberless : List Json → Bool
  | [] => true
  | item :: items => isNumberless item && areNumberless items

def haveNumberless : List (String × Json) → Bool
  | [] => true
  | (_, value) :: members => isNumberless value && haveNumberless members

end

mutual

/-- A value that has been written on one line has its own symbols, whatever follows it. -/
theorem symbols?_print (rest : Source) : (value : Json) → value.isNumberless = true →
    symbols? (value.print.map some ++ rest) = (symbols? rest).map (value.symbols ++ ·)
  | null, _ => symbols?_of_read rfl rfl
  | bool true, _ => symbols?_of_read rfl rfl
  | bool false, _ => symbols?_of_read rfl rfl
  | string value, _ => by
    rw [print, symbols?_quotedString, String.ofList_toList]
    rfl
  | array [], _ => by
    rw [print, List.map_cons, List.cons_append, symbols?_of_read rfl rfl,
      List.map_cons, List.cons_append, symbols?_of_read rfl rfl, Option.map_map]
    rfl
  | array (item :: items), h => by
    obtain ⟨hi, hs⟩ : item.isNumberless = true ∧ areNumberless items = true := by
      simpa [isNumberless, areNumberless] using h
    rw [print, List.map_cons, List.map_append, List.cons_append, List.append_assoc,
      symbols?_of_read rfl rfl, symbols?_print _ item hi, symbols?_printItems rest items hs]
    simp [symbols, Function.comp_def]
  | object [], _ => by
    rw [print, List.map_cons, List.cons_append, symbols?_of_read rfl rfl,
      List.map_cons, List.cons_append, symbols?_of_read rfl rfl, Option.map_map]
    rfl
  | object ((name, value) :: members), h => by
    obtain ⟨hv, hs⟩ : value.isNumberless = true ∧ haveNumberless members = true := by
      simpa [isNumberless, haveNumberless] using h
    rw [print, List.map_cons, List.map_append, List.map_cons, List.map_append, List.cons_append,
      List.append_assoc, List.cons_append, List.append_assoc, symbols?_of_read rfl rfl,
      symbols?_quotedString, symbols?_of_read rfl rfl, symbols?_print _ value hv,
      symbols?_printMembers rest members hs]
    simp [symbols, Function.comp_def]

theorem symbols?_printItems (rest : Source) : (items : List Json) → areNumberless items = true →
    symbols? ((printItems items).map some ++ rest) = (symbols? rest).map (itemSymbols items ++ ·)
  | [], _ => symbols?_of_read rfl rfl
  | item :: items, h => by
    obtain ⟨hi, hs⟩ : item.isNumberless = true ∧ areNumberless items = true := by
      simpa [areNumberless] using h
    rw [printItems, List.map_cons, List.map_append, List.cons_append, List.append_assoc,
      symbols?_of_read rfl rfl, symbols?_print _ item hi, symbols?_printItems rest items hs]
    simp [itemSymbols, Function.comp_def]

theorem symbols?_printMembers (rest : Source) : (members : List (String × Json)) →
    haveNumberless members = true →
    symbols? ((printMembers members).map some ++ rest) =
      (symbols? rest).map (memberSymbols members ++ ·)
  | [], _ => symbols?_of_read rfl rfl
  | (name, value) :: members, h => by
    obtain ⟨hv, hs⟩ : value.isNumberless = true ∧ haveNumberless members = true := by
      simpa [haveNumberless] using h
    rw [printMembers, List.map_cons, List.map_append, List.map_cons, List.map_append,
      List.cons_append, List.append_assoc, List.cons_append, List.append_assoc,
      symbols?_of_read rfl rfl, symbols?_quotedString, symbols?_of_read rfl rfl,
      symbols?_print _ value hv, symbols?_printMembers rest members hs]
    simp [memberSymbols, Function.comp_def]

end

theorem symbols?_nil : symbols? [] = some [] := by
  rw [symbols?]
  rfl

/-- A value without numbers that has been written on one line is read back. -/
theorem readRaw_print {value : Json} (h : value.isNumberless = true) :
    readRaw (value.print.map some) = some value.toRaw := by
  apply readRaw_of_symbols
  rw [← List.append_nil (value.print.map some), symbols?_print [] value h, symbols?_nil,
    Option.map_some, List.append_nil]

end RequestScript.Json
