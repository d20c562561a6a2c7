import LibFtp.Detail.Utils
import LibFtp.Text.Fields

/-! What the string searches and the splitter compute. -/

namespace LibFtp

theorem find_eq_some {ch : Byte} {front back : Bytes} (absent : ch ∉ front) :
    find ch (front ++ ch :: back) = some front.length := by
  induction front with
  | nil => simp [find, List.findIdx?_cons]
  | cons first rest ih =>
    have other : first ≠ ch := fun same => absent (by simp [same])
    have later := ih fun member => absent (List.mem_cons_of_mem first member)
    rw [find] at later ⊢
    simp [List.findIdx?_cons, other, later]

theorem find_eq_none {ch : Byte} {str : Bytes} (absent : ch ∉ str) : find ch str = none := by
  rw [find, List.findIdx?_eq_none_iff]
  intro other member
  exact beq_eq_false_iff_ne.mpr fun same => absent (same ▸ member)

theorem rfind_eq_some {ch : Byte} {front back : Bytes} (absent : ch ∉ back) :
    rfind ch (front ++ ch :: back) = some front.length := by
  have mirrored : (front ++ ch :: back).reverse = back.reverse ++ ch :: front.reverse := by simp
  rw [rfind, mirrored, find_eq_some (by simpa using absent), Option.map_some]
  simp only [List.length_append, List.length_cons, List.length_reverse, Option.some.injEq]
  omega

theorem rfind_eq_none {ch : Byte} {str : Bytes} (absent : ch ∉ str) : rfind ch str = none := by
  rw [rfind, find_eq_none (by simpa using absent), Option.map_none]

section Brackets

/-- What the searches for the brackets cut out. -/
def bracketed (str : Bytes) : Option Bytes := do
  let first ← find 40 str
  let last ← rfind 41 str
  if first ≥ last then none
  some (substr str (first + 1) (last - first - 1))

theorem substr_append (front middle back : Bytes) :
    substr (front ++ (middle ++ back)) front.length middle.length = middle := by
  rw [substr, List.drop_left, List.take_left]

/-- The brackets are found where they are in the right order. -/
theorem brackets_found {front back : Bytes} (body : Bytes) (opens : 40 ∉ front) (closes : 41 ∉ back) :
    find 40 (front ++ 40 :: (body ++ 41 :: back)) = some front.length ∧
      rfind 41 (front ++ 40 :: (body ++ 41 :: back)) = some (front.length + 1 + body.length) := by
  refine ⟨find_eq_some opens, ?_⟩
  have regroup : front ++ 40 :: (body ++ 41 :: back) = (front ++ 40 :: body) ++ 41 :: back := by simp
  rw [regroup, rfind_eq_some closes, List.length_append, List.length_cons]
  congr 1
  omega

theorem bracketed_eq_some {front body back : Bytes} (opens : 40 ∉ front) (closes : 41 ∉ back) :
    bracketed (front ++ 40 :: (body ++ 41 :: back)) = some body := by
  obtain ⟨first, last⟩ := brackets_found body opens closes
  have inner : substr (front ++ 40 :: (body ++ 41 :: back)) (front.length + 1)
      (front.length + 1 + body.length - front.length - 1) = body := by
    have cut := substr_append (front ++ [40]) body (41 :: back)
    rw [List.append_assoc, List.singleton_append, List.length_append, List.length_singleton] at cut
    rw [show front.length + 1 + body.length - front.length - 1 = body.length by omega]
    exact cut
  simp only [bracketed, first, last, bind, Option.bind_some]
  rw [if_neg (by omega), inner]

/-- Without a text between the brackets one of them is missing, or they are inverted. -/
theorem bracketed_eq_none {str : Bytes} (absent : ∀ body, ¬ Text.Between 40 41 str body) :
    find 40 str = none ∨ rfind 41 str = none ∨
      ∃ first last, find 40 str = some first ∧ rfind 41 str = some last ∧ last ≤ first := by
  by_cases opens : (40 : Byte) ∈ str
  · obtain ⟨front, after, split, before⟩ := List.eq_append_cons_of_mem opens
    by_cases closes : (41 : Byte) ∈ str
    · by_cases later : (41 : Byte) ∈ after
      · obtain ⟨back, body, mirrored, behind⟩ :=
          List.eq_append_cons_of_mem (List.mem_reverse.mpr later)
        have inner : after = body.reverse ++ 41 :: back.reverse := by
          have straight := congrArg List.reverse mirrored
          simpa using straight
        refine absurd ⟨front, back.reverse, ?_, before, by simpa using behind⟩ (absent body.reverse)
        rw [split, inner]
      · have earlier : (41 : Byte) ∈ front := by
          rw [split] at closes
          rcases List.mem_append.mp closes with found | found
          · exact found
          · rcases List.mem_cons.mp found with same | found
            · exact absurd same (by decide)
            · exact absurd found later
        obtain ⟨rest, left, mirrored, behind⟩ :=
          List.eq_append_cons_of_mem (List.mem_reverse.mpr earlier)
        have cut : front = left.reverse ++ 41 :: rest.reverse := by
          have straight := congrArg List.reverse mirrored
          simpa using straight
        have whole : str = left.reverse ++ 41 :: (rest.reverse ++ 40 :: after) := by
          rw [split, cut]
          simp
        have last : rfind 41 str = some left.reverse.length := by
          rw [whole, rfind_eq_some]
          simp [behind, later]
        refine .inr (.inr ⟨front.length, _, ?_, last, ?_⟩)
        · rw [split, find_eq_some before]
        · rw [cut, List.length_append]
          omega
    · exact .inr (.inl (rfind_eq_none closes))
  · exact .inl (find_eq_none opens)

theorem bracketed_iff (str body : Bytes) :
    bracketed str = some body ↔ Text.Between 40 41 str body := by
  constructor
  · intro found
    by_contra absent
    by_cases other : ∃ body, Text.Between 40 41 str body
    · obtain ⟨body', front, back, same, opens, closes⟩ := other
      rw [same, bracketed_eq_some opens closes] at found
      cases found
      exact absent ⟨front, back, same, opens, closes⟩
    · rcases bracketed_eq_none fun body between => other ⟨body, between⟩ with
        none | none | ⟨first, last, opens, closes, inverted⟩
      · simp [bracketed, none] at found
      · simp [bracketed, none, bind] at found
      · simp only [bracketed, opens, closes, bind, Option.bind_some, if_pos inverted] at found
        cases found
  · intro ⟨front, back, same, opens, closes⟩
    rw [same, bracketed_eq_some opens closes]

end Brackets

namespace Utils

/-- The token being read stands in front of what is still to be split. -/
private theorem splitLoop_eq (del : Byte) (str substr : Bytes) (result : List Bytes)
    (plain : del ∉ substr) (begun : str = [] → substr = []) :
    splitLoop del str substr result = result ++ Text.fields del (substr ++ str) := by
  induction str generalizing substr result with
  | nil =>
    rw [begun rfl]
    exact (List.append_nil result).symm
  | cons ch rest ih =>
    rw [splitLoop]
    split
    · rename_i same
      subst same
      rw [ih [] _ List.not_mem_nil fun _ => rfl, Text.fields_cut plain, List.append_assoc]
      rfl
    · rename_i other
      have longer : del ∉ substr ++ [ch] := by simp [plain, Ne.symm other]
      cases rest with
      | nil =>
        rw [List.isEmpty_nil, if_pos rfl, Text.fields_plain (by simp) longer]
        rfl
      | cons next others =>
        rw [List.isEmpty_cons, if_neg Bool.false_ne_true, ih _ _ longer nofun, List.append_assoc]
        rfl

theorem splitString_eq (str : Bytes) (del : Byte) : splitString str del = Text.fields del str :=
  splitLoop_eq del str [] [] List.not_mem_nil fun _ => rfl

/-- The tokens are free of the delimiter, they make up the string again up to a delimiter
at its end, and there are as many as the delimiters tell. -/
theorem splitString_exact (str : Bytes) (del : Byte) :
    (∀ token ∈ splitString str del, del ∉ token) ∧
      [del].intercalate (splitString str del) =
        (if str.getLast? = some del then str.dropLast else str) ∧
      (splitString str del = [] ↔ str = []) ∧
      (splitString str del).length =
        str.count del + (if str ≠ [] ∧ str.getLast? ≠ some del then 1 else 0) := by
  rw [splitString_eq]
  exact ⟨Text.fields_mem_plain del, Text.intercalate_fields del, Text.fields_eq_nil_iff del,
    Text.length_fields del⟩

end Utils

end LibFtp
