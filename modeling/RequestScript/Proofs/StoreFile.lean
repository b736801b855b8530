import RequestScript.Proofs.Bindings
import RequestScript.Proofs.Json.Reading
import RequestScript.StoreFile

namespace RequestScript.StoreFile

/-- The members of the object that a store file holds. -/
def members (pairs : List (String × String)) : List (String × Json) :=
  pairs.map fun pair => (pair.1, .string pair.2)

theorem symbols?_printLine (entry : String × String) (rest : Json.Source) :
    Json.symbols? ((printLine entry).map some ++ rest) =
      (Json.symbols? rest).map fun symbols =>
        .string (some entry.1) :: .colon :: .string (some entry.2) :: symbols := by
  simp only [printLine, List.map_cons, List.map_append, List.cons_append, List.append_assoc]
  rw [Json.symbols?_blank rfl, Json.symbols?_blank rfl, Json.symbols?_quotedString,
    Json.symbols?_of_read rfl rfl, Json.symbols?_blank rfl, Json.symbols?_quotedString]
  simp [Function.comp_def]

theorem symbols?_printLines (entries : List (String × String)) :
    Json.symbols? ((printLines entries).map some) =
      some (Json.memberSymbols (members entries)) := by
  induction entries with
  | nil =>
    rw [printLines, List.map_cons, Json.symbols?_blank rfl, List.map_cons,
      Json.symbols?_of_read rfl rfl, List.map_nil, Json.symbols?_nil]
    rfl
  | cons entry rest ih =>
    rw [printLines, List.map_cons, Json.symbols?_of_read rfl rfl, List.map_cons,
      Json.symbols?_blank rfl, List.map_append, symbols?_printLine, ih]
    rfl

theorem symbols?_print (texts : Bindings String) :
    Json.symbols? ((print texts).map some) = some (Json.object (members texts.pairs)).symbols := by
  unfold print
  split
  next h =>
    rw [h, List.map_cons, Json.symbols?_of_read rfl rfl, List.map_cons,
      Json.symbols?_of_read rfl rfl, List.map_nil, Json.symbols?_nil]
    rfl
  next entry rest h =>
    rw [h, List.map_cons, Json.symbols?_of_read rfl rfl, List.map_cons, Json.symbols?_blank rfl,
      List.map_append, symbols?_printLine, symbols?_printLines]
    rfl

theorem mapM_entry?_members (pairs : List (String × String)) :
    (Json.membersToRaw (members pairs)).mapM entry? = some pairs := by
  induction pairs with
  | nil => rfl
  | cons pair rest ih =>
    rw [members, List.map_cons, ← members, Json.membersToRaw, List.mapM_cons, ih]
    rfl

theorem ofRaw?_object (texts : Bindings String) :
    ofRaw? (Json.object (members texts.pairs)).toRaw = some texts := by
  rw [Json.toRaw, ofRaw?, mapM_entry?_members, Option.map_some, Bindings.ofList_pairs]

theorem isBlank_print (texts : Bindings String) : isBlank (print texts) = false := by
  have h : isWhiteSpace '\x7b' = false := by decide
  unfold print isBlank
  split <;> simp [h]

/-- The texts that have been written to a store file are read back. -/
theorem read?_print (texts : Bindings String) :
    read? (String.ofList (print texts)) = some texts := by
  rw [read?, String.toList_ofList, isBlank_print, if_neg Bool.false_ne_true,
    Json.readRaw_of_symbols (symbols?_print texts), Option.bind_some, ofRaw?_object]

end RequestScript.StoreFile
