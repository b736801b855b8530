import RequestScript.Proofs.Text.Quoted
import RequestScript.Token

namespace RequestScript

theorem not_mem_toString {c : Char} (hc : c.isDigit = false) (n : Nat) :
    c ∉ (toString n).toList := by
  rw [Nat.toString_eq_ofList_toDigits, String.toList_ofList]
  intro hm
  rw [Nat.isDigit_of_mem_toDigits (by decide) (by decide) hm] at hc
  cases hc

theorem toString_toList_injective {m n : Nat} (h : (toString m).toList = (toString n).toList) :
    m = n := by
  rw [Nat.toString_eq_ofList_toDigits, Nat.toString_eq_ofList_toDigits, String.toList_ofList,
    String.toList_ofList] at h
  calc
    m = Nat.ofDigitChars 10 (Nat.toDigits 10 m) 0 := Nat.ofDigitChars_ten_toDigits.symm
    _ = Nat.ofDigitChars 10 (Nat.toDigits 10 n) 0 := by rw [h]
    _ = n := Nat.ofDigitChars_ten_toDigits

namespace TokenKind

theorem ofName?_name (kind : TokenKind) : ofName? kind.name = some kind := by
  cases kind <;> decide

theorem name_injective {kind other : TokenKind} (h : kind.name = other.name) : kind = other := by
  have ho := ofName?_name other
  rw [← h, ofName?_name] at ho
  exact Option.some.inj ho

theorem space_not_mem_name (kind : TokenKind) : ' ' ∉ kind.name.toList := by
  cases kind <;> decide

theorem lineBreak_not_mem_name (kind : TokenKind) :
    '\n' ∉ kind.name.toList ∧ '\r' ∉ kind.name.toList := by
  cases kind <;> decide

theorem not_isLineBreak_of_mem_name {kind : TokenKind} {c : Char} (h : c ∈ kind.name.toList) :
    ¬ IsLineBreak c := by
  rintro (rfl | rfl)
  · exact kind.lineBreak_not_mem_name.1 h
  · exact kind.lineBreak_not_mem_name.2 h

end TokenKind

namespace Position

/-- A place as it stands at the start of the line of a token. -/
def text (position : Position) : List Char :=
  (toString position.line).toList ++ ':' :: (toString position.column).toList

theorem not_mem_text {position : Position} {c : Char} (hd : c.isDigit = false) (hc : c ≠ ':') :
    c ∉ position.text := by
  intro h
  rcases List.mem_append.mp h with h | h
  · exact not_mem_toString hd position.line h
  · exact not_mem_toString hd position.column ((List.mem_cons.mp h).resolve_left hc)

theorem space_not_mem_text (position : Position) : ' ' ∉ position.text :=
  not_mem_text (by decide) (by decide)

theorem text_injective {position other : Position} (h : position.text = other.text) :
    position = other := by
  have hl (n : Nat) : ':' ∉ (toString n).toList := not_mem_toString (by decide) n
  have hline : (toString position.line).toList = (toString other.line).toList := by
    have ht := congrArg (List.takeWhile (· != ':')) h
    rwa [text, text, (search_append (hl _) _).1, (search_append (hl _) _).1] at ht
  have hcolumn : (toString position.column).toList = (toString other.column).toList := by
    rw [text, text, hline] at h
    exact List.tail_eq_of_cons_eq (List.append_cancel_left h)
  cases position
  cases other
  rw [mk.injEq]
  exact ⟨toString_toList_injective hline, toString_toList_injective hcolumn⟩

end Position

namespace Token

/-- What the line of a token has after its kind. -/
def literalText (literal : String) : List Char :=
  if literal.isEmpty then [] else ' ' :: quoted literal.toList

theorem toList_display (token : Token) :
    token.display.toList =
      token.position.text ++ ' ' :: (token.kind.name.toList ++ literalText token.literal) := by
  have hs : " ".toList = [' '] := by decide
  have hc : ":".toList = [':'] := by decide
  unfold display literalText
  split
  · simp only [String.toList_append, hs, hc, Position.text, List.append_nil, List.append_assoc,
      List.cons_append, List.nil_append]
  · simp only [String.toList_append, hs, hc, Position.text, quote, String.toList_ofList,
      List.append_assoc, List.cons_append, List.nil_append]

theorem literalText_injective {literal other : String}
    (h : literalText literal = literalText other) : literal = other := by
  unfold literalText at h
  split at h
  next hl =>
    split at h
    next ho => rw [String.isEmpty_iff.mp hl, String.isEmpty_iff.mp ho]
    next => cases h
  next =>
    split at h
    next => cases h
    next => exact String.toList_injective (quoted_injective (List.tail_eq_of_cons_eq h))

/-- The kind ends where the literal begins, or with the line. -/
theorem takeWhile_name (kind : TokenKind) (literal : String) :
    (kind.name.toList ++ literalText literal).takeWhile (· != ' ') = kind.name.toList := by
  unfold literalText
  split
  · rw [List.append_nil]
    exact (search_of_not_mem kind.space_not_mem_name).1
  · exact (search_append kind.space_not_mem_name _).1

/-- A token is known from its line. -/
theorem display_injective {token other : Token} (h : token.display = other.display) :
    token = other := by
  have ht := congrArg String.toList h
  rw [toList_display, toList_display] at ht
  have hposition : token.position.text = other.position.text := by
    have hw := congrArg (List.takeWhile (· != ' ')) ht
    rwa [(search_append (Position.space_not_mem_text _) _).1,
      (search_append (Position.space_not_mem_text _) _).1] at hw
  rw [hposition] at ht
  have hrest := List.tail_eq_of_cons_eq (List.append_cancel_left ht)
  have hkind : token.kind.name.toList = other.kind.name.toList := by
    have hw := congrArg (List.takeWhile (· != ' ')) hrest
    rwa [takeWhile_name, takeWhile_name] at hw
  rw [hkind] at hrest
  have hliteral := literalText_injective (List.append_cancel_left hrest)
  cases token
  cases other
  rw [mk.injEq]
  exact ⟨TokenKind.name_injective (String.toList_injective hkind), hliteral,
    Position.text_injective hposition⟩

theorem not_isLineBreak_of_mem_display {token : Token} {c : Char} (h : c ∈ token.display.toList) :
    ¬ IsLineBreak c := by
  have hspace : ¬ IsLineBreak ' ' := by decide
  rw [toList_display] at h
  rcases List.mem_append.mp h with h | h
  · rintro (rfl | rfl)
    · exact Position.not_mem_text (by decide) (by decide) h
    · exact Position.not_mem_text (by decide) (by decide) h
  rcases List.mem_cons.mp h with rfl | h
  · exact hspace
  rcases List.mem_append.mp h with h | h
  · exact TokenKind.not_isLineBreak_of_mem_name h
  unfold literalText at h
  split at h
  · exact absurd h List.not_mem_nil
  rcases List.mem_cons.mp h with rfl | h
  · exact hspace
  · exact not_isLineBreak_of_mem_quoted h

/-- The second word of a line. -/
def secondWord (line : List Char) : List Char :=
  (line.dropWhile (· != ' ')).tail.takeWhile (· != ' ')

theorem secondWord_display (token : Token) :
    secondWord token.display.toList = token.kind.name.toList := by
  rw [toList_display, secondWord, (search_append (Position.space_not_mem_text _) _).2, List.tail_cons,
    takeWhile_name]

end Token

end RequestScript
