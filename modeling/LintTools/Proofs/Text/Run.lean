import LintTools.Text.Run

/-! Starts of lists, and runs inside them. What is left behind a start puts the list together again
with it, so looking for a start decides whether the list begins with it. -/
namespace LintTools.Text

variable {α : Type} [DecidableEq α]

theorem after?_iff (start items rest : List α) :
    after? start items = some rest ↔ items = start ++ rest := by
  induction start generalizing items with
  | nil =>
    rw [after?,Option.some.injEq]
    exact Iff.rfl
  | cons s start ih =>
    cases items with
    | nil => simp [after?]
    | cons item items =>
      rw [after?]
      split
      · rename_i same
        rw [ih,same,List.cons_append,List.cons.injEq]
        exact (and_iff_right rfl).symm
      · rename_i other
        simp [Ne.symm other]

theorem startsWith_iff (start items : List α) : startsWith start items = true ↔ start <+: items := by
  rw [startsWith,Option.isSome_iff_exists]
  constructor
  · intro found
    obtain ⟨rest,left⟩ := found
    exact ⟨rest,((after?_iff start items rest).mp left).symm⟩
  · intro starts
    obtain ⟨rest,same⟩ := starts
    exact ⟨rest,(after?_iff start items rest).mpr same.symm⟩

theorem after?_eq_none_iff (start items : List α) : after? start items = none ↔ ¬start <+: items := by
  rw [← startsWith_iff,startsWith,Bool.not_eq_true,Option.isSome_eq_false_iff,
    Option.isNone_iff_eq_none]

theorem endsWith_iff (ending items : List α) : endsWith ending items = true ↔ ending <:+ items := by
  rw [endsWith,startsWith_iff,List.reverse_prefix]

theorem occursIn_iff (run items : List α) : occursIn run items = true ↔ run <:+: items := by
  induction items with
  | nil => rw [occursIn,List.isEmpty_iff,List.infix_nil]
  | cons item items ih =>
    have here : (after? run (item :: items)).isSome = startsWith run (item :: items) := rfl
    rw [occursIn,here,Bool.or_eq_true,startsWith_iff,ih,List.infix_cons_iff]

end LintTools.Text
