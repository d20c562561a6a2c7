import Mathlib.Data.List.Basic

/-! Fields set apart by a delimiter, and the part of a text between two brackets. -/

namespace LibFtp.Text

variable {α : Type} [DecidableEq α]

/-- The fields of a text. An empty field behind the last delimiter does not count. -/
def fields (delimiter : α) (str : List α) : List (List α) :=
  if (str.splitOn delimiter).getLast? = some [] then (str.splitOn delimiter).dropLast
  else str.splitOn delimiter

theorem splitOn_plain (delimiter : α) (str : List α) :
    ∀ field ∈ str.splitOn delimiter, delimiter ∉ field := by
  induction str with
  | nil => simp
  | cons first rest ih =>
    rw [List.splitOn_cons_eq_if_modifyHead]
    obtain ⟨head, tail, split⟩ := List.exists_cons_of_ne_nil (List.splitOn_ne_nil delimiter rest)
    rw [split] at ih ⊢
    by_cases same : first = delimiter
    · simpa [same] using ih
    · have kept := ih head List.mem_cons_self
      intro field member
      rw [if_neg (by simpa using same), List.modifyHead_cons] at member
      rcases List.mem_cons.mp member with rfl | later
      · simp [Ne.symm same, kept]
      · exact ih field (List.mem_cons_of_mem head later)

omit [DecidableEq α] in
theorem intercalate_snoc (delimiter : α) {tokens : List (List α)} (given : tokens ≠ []) (last : List α) :
    [delimiter].intercalate (tokens ++ [last]) = [delimiter].intercalate tokens ++ delimiter :: last := by
  induction tokens with
  | nil => exact absurd rfl given
  | cons first rest ih =>
    cases rest with
    | nil => simp [List.intercalate_cons_cons]
    | cons second others =>
      have tail := ih (List.cons_ne_nil _ _)
      rw [List.cons_append, List.cons_append, List.intercalate_cons_cons, ← List.cons_append, tail,
        List.intercalate_cons_cons]
      simp

/-- Some fields are those of a text just where it is the fields with the delimiter in
between, and perhaps behind the last of them. -/
theorem fields_eq_iff (delimiter : α) (str : List α) {tokens : List (List α)} (given : tokens ≠ []) :
    fields delimiter str = tokens ↔ (∀ field ∈ tokens, delimiter ∉ field) ∧
      (str = [delimiter].intercalate tokens ∧ tokens.getLast? ≠ some [] ∨
        str = [delimiter].intercalate tokens ++ [delimiter]) := by
  have whole : [delimiter].intercalate (str.splitOn delimiter) = str := List.intercalate_splitOn _
  have plain := splitOn_plain delimiter str
  constructor
  · intro same
    unfold fields at same
    split at same
    · rename_i ends
      obtain ⟨parts, split⟩ := List.getLast?_eq_some_iff.mp ends
      rw [split, List.dropLast_concat] at same
      subst same
      rw [split] at whole plain
      refine ⟨fun field member => plain field (List.mem_append_left _ member), .inr ?_⟩
      rw [← whole, intercalate_snoc delimiter given]
    · rename_i ends
      rw [same] at whole plain ends
      exact ⟨plain, .inl ⟨whole.symm, ends⟩⟩
  · intro ⟨plain, shape⟩
    rcases shape with ⟨same, ends⟩ | same
    · have split : str.splitOn delimiter = tokens := by
        rw [same, List.splitOn_intercalate delimiter plain given]
      rw [fields, split, if_neg ends]
    · have split : str.splitOn delimiter = tokens ++ [[]] := by
        rw [same, ← intercalate_snoc delimiter given, List.splitOn_intercalate _ _ (by simp)]
        intro field member
        rcases List.mem_append.mp member with front | last
        · exact plain field front
        · rw [List.mem_singleton.mp last]
          exact List.not_mem_nil
      rw [fields, split, if_pos (by simp), List.dropLast_concat]

theorem fields_nil (delimiter : α) : fields delimiter [] = [] := rfl

theorem fields_plain {delimiter : α} {str : List α} (given : str ≠ []) (plain : delimiter ∉ str) :
    fields delimiter str = [str] := by
  rw [fields, List.splitOn_eq_singleton plain, if_neg (by simpa using given)]

theorem fields_cut {delimiter : α} {first : List α} (plain : delimiter ∉ first) (rest : List α) :
    fields delimiter (first ++ delimiter :: rest) = first :: fields delimiter rest := by
  have split : (first ++ delimiter :: rest).splitOn delimiter = first :: rest.splitOn delimiter :=
    List.splitOn_append_cons_self_of_not_mem plain rest
  have given := List.splitOn_ne_nil delimiter rest
  rw [fields, fields, split, List.getLast?_cons_of_ne_nil given, List.dropLast_cons_of_ne_nil given]
  split <;> rfl

section Whole
variable (delimiter : α) {str : List α}

theorem fields_mem_plain : ∀ field ∈ fields delimiter str, delimiter ∉ field := by
  intro field member
  refine splitOn_plain delimiter str field ?_
  unfold fields at member
  split at member
  · exact List.dropLast_subset _ member
  · exact member

theorem fields_eq_nil_iff : fields delimiter str = [] ↔ str = [] := by
  constructor
  · intro none
    have whole : [delimiter].intercalate (str.splitOn delimiter) = str := List.intercalate_splitOn _
    unfold fields at none
    split at none
    · rename_i ends
      obtain ⟨parts, split⟩ := List.getLast?_eq_some_iff.mp ends
      rw [split, List.dropLast_concat] at none
      rw [← whole, split, none]
      rfl
    · exact absurd none (List.splitOn_ne_nil delimiter str)
  · intro empty
    rw [empty, fields_nil]

omit [DecidableEq α] in
/-- The end of the tokens with the delimiter in between is that of the last token. -/
theorem getLast?_intercalate {tokens : List (List α)} {last : List α} (given : last ≠ [])
    (ends : tokens.getLast? = some last) :
    ([delimiter].intercalate tokens).getLast? = last.getLast? := by
  obtain ⟨front, split⟩ := List.getLast?_eq_some_iff.mp ends
  rw [split]
  by_cases single : front = []
  · simp [single]
  · rw [intercalate_snoc delimiter single, List.getLast?_append_of_ne_nil _ (List.cons_ne_nil _ _),
      List.getLast?_cons_of_ne_nil given]

theorem count_intercalate {tokens : List (List α)} (given : tokens ≠ [])
    (plain : ∀ field ∈ tokens, delimiter ∉ field) :
    ([delimiter].intercalate tokens).count delimiter + 1 = tokens.length := by
  induction tokens with
  | nil => exact absurd rfl given
  | cons first rest ih =>
    have absent : first.count delimiter = 0 := List.count_eq_zero.mpr (plain first List.mem_cons_self)
    cases rest with
    | nil => simp [absent]
    | cons second others =>
      have tail := ih (List.cons_ne_nil _ _) fun field member =>
        plain field (List.mem_cons_of_mem first member)
      rw [List.intercalate_cons_cons, List.length_cons, ← tail, List.count_append, List.count_append,
        absent, List.count_singleton_self]
      omega

/-- The fields, the text that they are the fields of, and its end. -/
private theorem fields_shape (given : str ≠ []) :
    str.getLast? = some delimiter ∧ str = [delimiter].intercalate (fields delimiter str) ++ [delimiter] ∨
      str.getLast? ≠ some delimiter ∧ str = [delimiter].intercalate (fields delimiter str) := by
  have split : fields delimiter str ≠ [] := fun none => given ((fields_eq_nil_iff delimiter).mp none)
  obtain ⟨plain, ⟨same, ends⟩ | same⟩ := (fields_eq_iff delimiter str split).mp rfl
  · refine .inr ⟨fun closed => ?_, same⟩
    have found := List.getLast?_eq_some_getLast split
    generalize (fields delimiter str).getLast split = last at found
    have inner : last ≠ [] := fun empty => ends (found.trans (congrArg _ empty))
    rw [same, getLast?_intercalate delimiter inner found] at closed
    exact plain last (List.mem_of_getLast? found) (List.mem_of_getLast? closed)
  · refine .inl ⟨?_, same⟩
    rw [same]
    simp

/-- The fields with the delimiter in between are the text, but for a delimiter at its end. -/
theorem intercalate_fields :
    [delimiter].intercalate (fields delimiter str) =
      if str.getLast? = some delimiter then str.dropLast else str := by
  by_cases empty : str = []
  · simp [empty, fields_nil]
  · rcases fields_shape delimiter empty with ⟨closed, same⟩ | ⟨other, same⟩
    · rw [if_pos closed]
      exact (congrArg List.dropLast same).trans List.dropLast_concat |>.symm
    · rw [if_neg other]
      exact same.symm

/-- There is a field for every delimiter, and one for a text behind the last of them. -/
theorem length_fields :
    (fields delimiter str).length =
      str.count delimiter + if str ≠ [] ∧ str.getLast? ≠ some delimiter then 1 else 0 := by
  by_cases empty : str = []
  · simp [empty, fields_nil]
  · have given : fields delimiter str ≠ [] := fun none => empty ((fields_eq_nil_iff delimiter).mp none)
    have counted := count_intercalate delimiter given (fields_mem_plain delimiter)
    rcases fields_shape delimiter empty with ⟨closed, same⟩ | ⟨other, same⟩
    · rw [if_neg fun both => both.2 closed, ← counted]
      have total := congrArg (List.count delimiter) same
      rw [List.count_append, List.count_singleton_self] at total
      exact total.symm
    · rw [if_pos ⟨empty, other⟩, ← counted, ← same]

end Whole

section Brackets
variable {opening closing : α} {str body other : List α}

/-- The text between the first opening and the last closing bracket. -/
def Between (opening closing : α) (str body : List α) : Prop :=
  ∃ front back, str = front ++ opening :: (body ++ closing :: back) ∧ opening ∉ front ∧
    closing ∉ back

omit [DecidableEq α] in
/-- A text is cut at the first occurrence of an element in one way only. -/
theorem cut_unique {front after front' after' : List α} {mark : α} (absent : mark ∉ front)
    (absent' : mark ∉ front') (same : front ++ mark :: after = front' ++ mark :: after') :
    front = front' ∧ after = after' := by
  induction front generalizing front' with
  | nil =>
    cases front' with
    | nil => exact ⟨rfl, (List.cons.inj same).2⟩
    | cons first rest => exact absurd (List.cons.inj same).1 fun equal => absent' (by simp [equal])
  | cons first rest ih =>
    cases front' with
    | nil => exact absurd (List.cons.inj same).1 fun equal => absent (by simp [equal])
    | cons first' rest' =>
      obtain ⟨head, tail⟩ := List.cons.inj same
      obtain ⟨left, right⟩ := ih (fun member => absent (List.mem_cons_of_mem _ member))
        (fun member => absent' (List.mem_cons_of_mem _ member)) tail
      exact ⟨by rw [head, left], right⟩

omit [DecidableEq α] in
theorem Between.unique (first : Between opening closing str body)
    (second : Between opening closing str other) : body = other := by
  obtain ⟨front, back, same, opens, closes⟩ := first
  obtain ⟨front', back', same', opens', closes'⟩ := second
  obtain ⟨_, inner⟩ := cut_unique opens opens' (same.symm.trans same')
  have mirrored : back.reverse ++ closing :: body.reverse =
      back'.reverse ++ closing :: other.reverse := by
    simpa using congrArg List.reverse inner
  have parted := cut_unique (by simpa using closes) (by simpa using closes') mirrored
  exact List.reverse_inj.mp parted.2

end Brackets

end LibFtp.Text
