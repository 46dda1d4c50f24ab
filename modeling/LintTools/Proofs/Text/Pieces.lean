import LintTools.Text.Blank
import Mathlib.Data.List.Basic

/-! Cutting a text at a separator. A separator between two texts cuts each of them on its own, and
pieces without the separator are found again after they have been joined by it. -/
namespace LintTools.Text

theorem pieces_eq_splitOn (sep : Char) (cs : List Char) : pieces sep cs = cs.splitOn sep := by
  induction cs with
  | nil => simp [pieces]
  | cons c cs ih =>
    rw [pieces,List.splitOn_cons_eq_if_modifyHead,ih]
    by_cases same : c = sep
    · simp [same]
    · cases found : cs.splitOn sep with
      | nil => exact absurd found (List.splitOn_ne_nil sep cs)
      | cons first others => simp [same]

theorem pieces_nil (sep : Char) : pieces sep [] = [[]] := rfl

theorem pieces_ne_nil (sep : Char) (cs : List Char) : pieces sep cs ≠ [] := by
  rw [pieces_eq_splitOn]
  exact List.splitOn_ne_nil sep cs

theorem pieces_sep (sep : Char) (cs : List Char) : pieces sep (sep :: cs) = [] :: pieces sep cs := by
  simp [pieces]

/-- A character that is no separator is put in front of the first piece. -/
theorem pieces_cons (sep c : Char) (cs : List Char) (other : c ≠ sep) :
    pieces sep (c :: cs) = (pieces sep cs).modifyHead (c :: ·) := by
  simp [pieces_eq_splitOn,List.splitOn_cons_eq_if_modifyHead,other]

theorem pieces_append (sep : Char) (before after : List Char) :
    pieces sep (before ++ sep :: after) = pieces sep before ++ pieces sep after := by
  simp only [pieces_eq_splitOn,List.splitOn_append_cons_self]

theorem pieces_of_not_mem (sep : Char) (cs : List Char) (absent : sep ∉ cs) :
    pieces sep cs = [cs] := by
  rw [pieces_eq_splitOn]
  exact List.splitOn_eq_singleton absent

theorem pieces_intercalate (sep : Char) (parts : List (List Char)) (nonempty : parts ≠ [])
    (clear : ∀ part ∈ parts, sep ∉ part) : pieces sep ([sep].intercalate parts) = parts := by
  rw [pieces_eq_splitOn]
  exact List.splitOn_intercalate sep clear nonempty

theorem not_mem_of_mem_pieces (sep : Char) (cs piece : List Char) (member : piece ∈ pieces sep cs) :
    sep ∉ piece := by
  induction cs generalizing piece with
  | nil =>
    simp only [pieces_nil,List.mem_singleton] at member
    simp [member]
  | cons c cs ih =>
    by_cases same : c = sep
    · subst same
      rw [pieces_sep] at member
      rcases List.mem_cons.mp member with rfl | inside
      · simp
      · exact ih piece inside
    · rw [pieces_cons sep c cs same] at member
      cases found : pieces sep cs with
      | nil => exact absurd found (pieces_ne_nil sep cs)
      | cons first others =>
        simp only [found,List.modifyHead_cons,List.mem_cons] at member ih
        rcases member with rfl | inside
        · simpa [Ne.symm same] using ih first (.inl rfl)
        · exact ih piece (.inr inside)

end LintTools.Text
