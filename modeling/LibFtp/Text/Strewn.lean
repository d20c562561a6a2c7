import Mathlib.Data.List.Basic
import Mathlib.Data.List.Forall2

/-! Pieces that stand in a row one behind the other, each with what it means. -/

namespace LibFtp.Text

variable {α Meaning : Type}

/-- The row is made of pieces with the given meanings, in their order. Where it is loose,
something else may stand in front of a piece and behind the last one. -/
inductive Strewn (loose : Prop) (means : List α → Meaning → Prop) :
    List α → List Meaning → Prop where
  | nil : Strewn loose means [] []
  | other (row : Strewn loose means front told) (allowed : loose) (more : List α) :
      Strewn loose means (front ++ more) told
  | piece (row : Strewn loose means front told) (meant : means piece meaning) :
      Strewn loose means (front ++ piece) (told ++ [meaning])

namespace Strewn

variable {loose : Prop} {means : List α → Meaning → Prop} {row : List α} {told : List Meaning}

theorem loosen (strewn : Strewn loose means row told) : Strewn True means row told := by
  induction strewn with
  | nil => exact .nil
  | other _ _ more ih => exact .other ih trivial more
  | piece _ meant ih => exact .piece ih meant

/-- A row that is not loose is its pieces and nothing else. -/
theorem pieces (strewn : Strewn False means row told) :
    ∃ pieces, row = pieces.flatten ∧ List.Forall₂ means pieces told := by
  induction strewn with
  | nil => exact ⟨[], rfl, .nil⟩
  | other _ never => exact never.elim
  | @piece _ _ piece _ _ meant ih =>
    obtain ⟨pieces, same, meanings⟩ := ih
    exact ⟨pieces ++ [piece], by simp [same], List.rel_append meanings (.cons meant .nil)⟩

end Strewn

end LibFtp.Text
