import LintTools.Proofs.Invocation.WrittenVersion

/-! Flags that a transform has written as words. The words for true and false are read back as what
they were written for. Of `y` and `n` neither is one of the words for false, so that both are read
as true, and a false flag does not survive being written as `n`. -/
namespace LintTools

namespace Json

theorem flagWord?_eq (text : String) : flagWord? text =
    if Text.asciiLowerText (Text.trim text) ∈ ["1","true","yes","on"] then some true
    else if Text.asciiLowerText (Text.trim text) ∈ ["0","false","no","off"] then some false
    else none := by
  simp only [flagWord?,List.contains_iff_mem]

/-- The texts that are read as false are the empty one and the words for it. -/
theorem flag_text_eq_false_iff (text : String) : (str text).flag = false ↔
    text = "" ∨ Text.asciiLowerText (Text.trim text) ∈ ["0","false","no","off"] := by
  have blank : text = "" → Text.asciiLowerText (Text.trim text) = "" := by
    rintro rfl
    decide
  rw [flag,toFlag?,Option.getD_some,flagWord?_eq]
  generalize Text.asciiLowerText (Text.trim text) = word at blank ⊢
  by_cases yes : word ∈ ["1","true","yes","on"]
  · have no : word ∉ ["0","false","no","off"] := by
      simp only [List.mem_cons,List.not_mem_nil,or_false] at yes
      rcases yes with rfl | rfl | rfl | rfl <;> decide
    have filled : text ≠ "" := by
      intro empty
      rw [blank empty] at yes
      exact absurd yes (by decide)
    rw [if_pos yes]
    simp [no,filled]
  · rw [if_neg yes]
    by_cases no : word ∈ ["0","false","no","off"]
    · rw [if_pos no]
      simp [no]
    · rw [if_neg no]
      simp [no]

end Json

namespace Transform

theorem flag_written_text (flag : Bool) :
    (Json.str (if flag then "true" else "false")).flag = flag := by
  cases flag with
  | false => exact (Json.flag_text_eq_false_iff "false").mpr (by decide)
  | true => exact eq_true_of_ne_false (mt (Json.flag_text_eq_false_iff "true").mp (by decide))

theorem flag_written_letter (flag : Bool) :
    (Json.str (if flag then "y" else "n")).flag = true := by
  apply eq_true_of_ne_false
  rw [Json.flag_text_eq_false_iff]
  cases flag <;> decide

section Settled
variable (value : Json) (ctx later : Context)

theorem boolToStr_twice :
    boolToStr.apply (boolToStr.apply value ctx) later = boolToStr.apply value ctx := by
  rw [apply,apply,flag_written_text]

theorem boolToYn_twice : boolToYn.apply (boolToYn.apply value ctx) later = .str "y" := by
  rw [apply,apply,flag_written_letter,if_pos rfl]

/-- A value that has been written as `true` or `false` is written so again. One that has been
written as `y` or `n` becomes `y`, so that it is kept exactly when it was true. -/
theorem flags_settled_iff :
    boolToStr.apply (boolToStr.apply value ctx) later = boolToStr.apply value ctx ∧
      boolToYn.apply (boolToYn.apply value ctx) later = .str "y" ∧
      (boolToYn.apply (boolToYn.apply value ctx) later = boolToYn.apply value ctx ↔
        value.flag = true) := by
  refine ⟨boolToStr_twice value ctx later,boolToYn_twice value ctx later,?_⟩
  rw [boolToYn_twice,apply]
  cases value.flag <;> simp

end Settled

/-- A false flag is written as `n`, and `n` as `y`. -/
theorem falseLetter_turned :
    boolToYn.apply (.bool false) plainRun = .str "n" ∧
      boolToYn.apply (boolToYn.apply (.bool false) plainRun) plainRun = .str "y" ∧
      boolToYn.apply (boolToYn.apply (.bool false) plainRun) plainRun ≠
        boolToYn.apply (.bool false) plainRun := by
  have written : boolToYn.apply (.bool false) plainRun = .str "n" := rfl
  refine ⟨written,boolToYn_twice (.bool false) plainRun plainRun,?_⟩
  rw [boolToYn_twice,written]
  simp

end Transform
end LintTools
