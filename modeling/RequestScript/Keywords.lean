namespace RequestScript

/-- The members of a list in the order of their first occurrence. -/
def firstOccurrences : List String → List String
  | [] => []
  | word :: words => word :: (firstOccurrences words).filter (· != word)

theorem mem_firstOccurrences {word : String} {words : List String} :
    word ∈ firstOccurrences words ↔ word ∈ words := by
  induction words with
  | nil => simp [firstOccurrences]
  | cons first rest ih =>
    simp only [firstOccurrences, List.mem_cons, List.mem_filter, ih, bne_iff_ne, ne_eq]
    by_cases h : word = first <;> simp [h]

theorem nodup_firstOccurrences (words : List String) : (firstOccurrences words).Nodup := by
  induction words with
  | nil => simp [firstOccurrences]
  | cons first rest ih =>
    simp only [firstOccurrences, List.nodup_cons, List.mem_filter, bne_self_eq_false]
    exact ⟨by simp, ih.filter _⟩

/-- Reserved words, each held once and compared exactly. -/
structure Keywords where
  words : List String
  nodup : words.Nodup

namespace Keywords

def ofList (words : List String) : Keywords :=
  ⟨firstOccurrences words, nodup_firstOccurrences words⟩

def contains (keywords : Keywords) (word : String) : Bool :=
  keywords.words.contains word

def size (keywords : Keywords) : Nat :=
  keywords.words.length

def isEmpty (keywords : Keywords) : Bool :=
  keywords.words.isEmpty

theorem contains_ofList (words : List String) (word : String) :
    (ofList words).contains word = words.contains word := by
  simp [contains, ofList, mem_firstOccurrences]

end Keywords

end RequestScript
