import Mathlib.Data.List.TakeWhile
import Mathlib.Data.String.Basic
import RequestScript.FileTree

namespace RequestScript

namespace FilePath

/-- A path in front of its last name, and the name. -/
structure EndsIn (text front last : List Char) : Prop where
  whole : text = front ++ last
  closed : front = [] ∨ front.getLast? = some '/'
  noSlash : '/' ∉ last
  ne_nil : last ≠ []

theorem exists_endsIn {text : List Char} (ht : text ≠ []) (hs : text.getLast? ≠ some '/') :
    ∃ front last, EndsIn text front last := by
  have whole := List.takeWhile_append_dropWhile (p := (· != '/')) (l := text.reverse)
  have hd := List.head?_dropWhile_not (· != '/') text.reverse
  have hn : '/' ∉ text.reverse.takeWhile (· != '/') := fun hm => by
    simpa using List.mem_takeWhile_imp hm
  obtain ⟨c, cs, hc⟩ := List.exists_cons_of_ne_nil (List.reverse_ne_nil_iff.mpr ht)
  refine ⟨(text.reverse.dropWhile (· != '/')).reverse, (text.reverse.takeWhile (· != '/')).reverse,
    ?_, ?_, by simpa using hn, ?_⟩
  · rw [← List.reverse_append, whole, List.reverse_reverse]
  · cases hr : text.reverse.dropWhile (· != '/') with
    | nil => exact Or.inl rfl
    | cons d ds =>
      rw [hr] at hd
      right
      simpa using hd
  · rw [hc]
    rw [← List.head?_reverse, hc] at hs
    have hne : (c != '/') = true := by simpa using hs
    simp [hne]

theorem componentsFrom_noSlash {before name rest : List Char} (h : '/' ∉ rest) :
    componentsFrom before name rest =
      componentAt (rest.reverse ++ before) (rest.reverse ++ name) := by
  induction rest generalizing before name with
  | nil => rfl
  | cons c rest ih =>
    obtain ⟨hc, hr⟩ := not_or.mp (mt List.mem_cons.mpr h)
    rw [componentsFrom, if_neg (Ne.symm hc), ih hr]
    simp

theorem componentsFrom_slash (before name front rest : List Char) :
    componentsFrom before name (front ++ '/' :: rest) =
      componentsFrom before name front ++
        componentsFrom ('/' :: (front.reverse ++ before)) [] rest := by
  induction front generalizing before name with
  | nil =>
    show (if '/' = '/' then componentAt before name ++ componentsFrom ('/' :: before) [] rest
      else _) = _
    rw [if_pos rfl]
    rfl
  | cons c front ih =>
    rw [List.cons_append, componentsFrom, componentsFrom, List.reverse_cons, List.append_assoc]
    split
    next => rw [ih, List.append_assoc]; rfl
    next => rw [ih]; rfl

/-- A slash at the end of a path adds nothing to it. -/
theorem components_slash (text : List Char) :
    (⟨text ++ ['/']⟩ : FilePath).components = (⟨text⟩ : FilePath).components := by
  unfold components
  rw [componentsFrom_slash]
  exact List.append_nil _

theorem mem_stem {c : Char} {name : List Char} (h : c ∈ stem name) : c ∈ name := by
  unfold stem at h
  dsimp only at h
  split at h
  next => exact h
  next =>
    have hm := List.mem_of_mem_drop (List.mem_reverse.mp h)
    exact List.mem_reverse.mp ((List.dropWhile_sublist _).mem hm)

/-- An extension with a point in it is never that which a name had. -/
theorem stem_append_ne (name extension : List Char) {last : List Char} (h : '.' ∉ last) :
    stem name ++ '.' :: (extension ++ '.' :: last) ≠ name := by
  intro he
  have hr : name.reverse = last.reverse ++ '.' :: (stem name ++ '.' :: extension).reverse := by
    conv => lhs; rw [← he]
    simp
  have hp : ∀ c ∈ last.reverse, decide (c ≠ '.') = true := by
    intro c hc
    simpa using fun hd : c = '.' => h (hd ▸ List.mem_reverse.mp hc)
  have hd : name.reverse.dropWhile (· ≠ '.') = '.' :: (stem name ++ '.' :: extension).reverse := by
    rw [hr, List.dropWhile_append_of_pos hp, List.dropWhile_cons_of_neg (by decide)]
  have hs : stem name = stem name ++ '.' :: extension := by
    conv => lhs; unfold stem
    rw [hd]
    simp
  have hl := congrArg List.length hs
  simp at hl

namespace EndsIn

variable {path : FilePath} {front last : List Char}

/-- The last name of a path is a component, unless it is a point that is not the whole path. -/
theorem components_eq (h : EndsIn path.text front last) :
    path.components =
      (⟨front⟩ : FilePath).components ++ componentAt path.text.reverse last.reverse := by
  rcases h.closed with rfl | hf
  · rw [components, h.whole, List.nil_append, componentsFrom_noSlash h.noSlash, List.append_nil]
    rfl
  · obtain ⟨before, rfl⟩ := List.getLast?_eq_some_iff.mp hf
    rw [components_slash, components, components, h.whole, List.append_assoc,
      List.singleton_append, componentsFrom_slash, componentsFrom_noSlash h.noSlash]
    simp

theorem components_of_ne_point (h : EndsIn path.text front last) (hd : last ≠ ['.']) :
    path.components = (⟨front⟩ : FilePath).components ++ [⟨last, path.text⟩] := by
  have hn : ¬ (last.reverse = [] ∨ (last.reverse = ['.'] ∧ path.text.reverse ≠ ['.'])) := by
    rintro (hn | ⟨hn, -⟩)
    · exact h.ne_nil (List.reverse_eq_nil_iff.mp hn)
    · exact hd (List.reverse_eq_iff.mp hn)
  rw [h.components_eq, componentAt, if_neg hn, List.reverse_reverse, List.reverse_reverse]

theorem getLast?_components (h : EndsIn path.text front last) (hd : last ≠ ['.']) :
    path.components.getLast? = some ⟨last, path.text⟩ := by
  rw [h.components_of_ne_point hd, List.getLast?_concat]

theorem withExtension (h : EndsIn path.text front last) (hd : last ≠ ['.'])
    (hdd : last ≠ ['.', '.']) {extension : List Char} (he : '/' ∉ extension) :
    EndsIn (path.withExtension extension).text front (stem last ++ '.' :: extension) := by
  have hf : path.text.take (path.text.length - last.length) = front := by
    rw [h.whole]
    simp
  have hw : (path.withExtension extension).text = front ++ (stem last ++ '.' :: extension) := by
    unfold FilePath.withExtension
    rw [h.getLast?_components hd]
    dsimp only
    rw [if_neg (not_or.mpr ⟨hd, hdd⟩), hf]
    simp
  refine ⟨hw, h.closed, ?_, by simp⟩
  intro hm
  rcases List.mem_append.mp hm with hm | hm
  · exact h.noSlash (mem_stem hm)
  · rcases List.mem_cons.mp hm with hc | hm
    · cases hc
    · exact he hm

end EndsIn

end FilePath

namespace FileTree

theorem splitOnAux_slash (before piece rest : List Char) (done : List String) :
    String.splitOnAux (String.ofList (before ++ piece ++ rest)) "/" ⟨String.utf8Len before⟩
        ⟨String.utf8Len before + String.utf8Len piece⟩ 0 done =
      done.reverse ++ (List.splitOnPPrepend (· == '/') rest piece.reverse).map String.ofList := by
  induction rest generalizing before piece done with
  | nil =>
    have he := String.extract_of_valid before piece []
    have ha := String.atEnd_of_valid (before ++ piece) []
    rw [String.utf8Len_append] at ha
    rw [String.splitOnAux, if_pos (ha.mpr rfl), he]
    simp
  | cons c rest ih =>
    have ha := String.atEnd_of_valid (before ++ piece) (c :: rest)
    have hg := String.get_of_valid (before ++ piece) (c :: rest)
    have hn := String.next_of_valid (before ++ piece) c rest
    have he := String.extract_of_valid before piece (c :: rest)
    have hs : String.Pos.Raw.get "/" 0 = '/' := by decide
    have hu (i : String.Pos.Raw) : i.unoffsetBy 0 = i := rfl
    have hw : before ++ piece ++ c :: rest = before ++ (piece ++ [c]) ++ rest := by simp
    rw [String.utf8Len_append] at ha hg hn
    rw [String.splitOnAux, if_neg (mt ha.mp (List.cons_ne_nil c rest)), hg, hs]
    by_cases hc : c = '/'
    · subst hc
      have hj : (String.Pos.Raw.next "/" 0).atEnd "/" = true := by decide
      have hk (i : Nat) : (⟨i + Char.utf8Size '/'⟩ : String.Pos.Raw).unoffsetBy
          (String.Pos.Raw.next "/" 0) = ⟨i⟩ := rfl
      have hi := ih (before ++ (piece ++ ['/'])) [] (String.ofList piece :: done)
      have hp : List.splitOnPPrepend (· == '/') ('/' :: rest) piece.reverse =
          piece :: List.splitOnPPrepend (· == '/') rest [] := by
        rw [List.splitOnPPrepend_cons_pos rfl, List.reverse_reverse]
        rfl
      have hl : String.utf8Len (before ++ (piece ++ ['/'])) =
          String.utf8Len before + String.utf8Len piece + Char.utf8Size '/' := by
        simp [Nat.add_assoc]
      rw [List.append_nil, String.utf8Len_nil, Nat.add_zero, hl] at hi
      rw [if_pos (by simp)]
      dsimp only
      rw [if_pos hj, hn, hk, he, hp, hw, hi]
      simp
    · have hp : List.splitOnPPrepend (· == '/') (c :: rest) piece.reverse =
          List.splitOnPPrepend (· == '/') rest (piece ++ [c]).reverse := by
        rw [List.splitOnPPrepend_cons_neg (by simpa using hc), List.reverse_append]
        rfl
      have hi := ih before (piece ++ [c]) done
      have hl : String.utf8Len before + String.utf8Len (piece ++ [c]) =
          String.utf8Len before + String.utf8Len piece + c.utf8Size := by
        simp [Nat.add_assoc]
      rw [hl] at hi
      rw [if_neg (by simpa using hc), hu, hn, hp, hw, hi]

/-- The names of a path are what stands between its slashes. -/
theorem namesOf_eq (path : FilePath) :
    namesOf path = ((path.text.splitOn '/').map String.ofList).filter (· ≠ "") := by
  have hs : path.toString.splitOn "/" = (path.text.splitOn '/').map String.ofList := by
    unfold String.splitOn
    rw [if_neg (by decide)]
    exact splitOnAux_slash [] [] path.text []
  rw [namesOf, hs]

theorem namesOf_slash (text : List Char) : namesOf ⟨text ++ ['/']⟩ = namesOf ⟨text⟩ := by
  rw [namesOf_eq, namesOf_eq, List.splitOn_append_cons_self]
  simp

theorem namesOf_noSlash {path : FilePath} (hn : path.text ≠ []) (hs : '/' ∉ path.text) :
    namesOf path = [path.toString] := by
  have he : path.toString ≠ "" := fun h => hn (String.ofList_eq_empty_iff.mp h)
  rw [namesOf_eq, List.splitOn_eq_singleton hs]
  simp [FilePath.toString] at he ⊢
  exact he

theorem namesOf_endsIn {path : FilePath} {front last : List Char}
    (h : FilePath.EndsIn path.text front last) :
    namesOf path = namesOf ⟨front⟩ ++ [String.ofList last] := by
  have hne : String.ofList last ≠ "" := fun he => h.ne_nil (String.ofList_eq_empty_iff.mp he)
  have hl := List.splitOn_eq_singleton h.noSlash
  rcases h.closed with rfl | hf
  · rw [namesOf_eq, namesOf_eq, h.whole, List.nil_append, hl]
    simp [hne]
  · obtain ⟨before, rfl⟩ := List.getLast?_eq_some_iff.mp hf
    rw [namesOf_eq, namesOf_eq, h.whole, List.append_assoc, List.singleton_append,
      List.splitOn_append_cons_self, List.splitOn_append_cons_self, hl]
    simp [hne]

end FileTree

end RequestScript
