import Mathlib.Data.List.Basic

/-! Written forms that show where they end. Where no form begins like another, a run of forms is
taken apart in one way only, and a mark that begins none of them shows where the run ends. -/
namespace LintTools.Text

variable {α β : Type} {write : α → List β} {allowed : α → Prop}

/-- What is written for an allowed item can be cut off in one way only, whatever stands behind. -/
def PrefixFree (write : α → List β) (allowed : α → Prop) : Prop :=
  ∀ a b, allowed a → allowed b → ∀ s t, write a ++ s = write b ++ t → a = b ∧ s = t

namespace PrefixFree

/-- Two runs with a rest behind each agree when no item could go on with either rest. -/
theorem flatMap_append_inj (free : PrefixFree write allowed) (s t : List β)
    (stop : ∀ a, allowed a → ¬write a <+: s) (stop' : ∀ a, allowed a → ¬write a <+: t)
    (as bs : List α) (within : ∀ a ∈ as, allowed a) (within' : ∀ b ∈ bs, allowed b)
    (same : as.flatMap write ++ s = bs.flatMap write ++ t) : as = bs ∧ s = t := by
  induction as generalizing bs with
  | nil =>
    cases bs with
    | nil => exact ⟨rfl,same⟩
    | cons b bs =>
      rw [List.flatMap_nil,List.nil_append,List.flatMap_cons,List.append_assoc] at same
      exact absurd ⟨_,same.symm⟩ (stop b (within' b List.mem_cons_self))
  | cons a as ih =>
    rw [List.flatMap_cons,List.append_assoc] at same
    cases bs with
    | nil => exact absurd ⟨_,same⟩ (stop' a (within a List.mem_cons_self))
    | cons b bs =>
      rw [List.flatMap_cons,List.append_assoc] at same
      obtain ⟨first,rest⟩ := free a b (within a List.mem_cons_self) (within' b List.mem_cons_self)
        _ _ same
      obtain ⟨others,behind⟩ := ih bs (fun c member => within c (List.mem_cons_of_mem a member))
        (fun c member => within' c (List.mem_cons_of_mem b member)) rest
      exact ⟨congrArg₂ List.cons first others,behind⟩

/-- A mark that begins no item ends a run of them. -/
theorem closed (free : PrefixFree write allowed) (mark : β)
    (other : ∀ a, allowed a → ∀ s, ¬write a <+: mark :: s) :
    PrefixFree (fun as : List α => as.flatMap write ++ [mark]) fun as => ∀ a ∈ as, allowed a := by
  intro as bs within within' s t same
  rw [List.append_assoc,List.append_assoc] at same
  obtain ⟨run,behind⟩ := free.flatMap_append_inj (mark :: s) (mark :: t)
    (fun a permitted => other a permitted s) (fun a permitted => other a permitted t)
    as bs within within' same
  exact ⟨run,(List.cons.inj behind).2⟩

theorem single (allowed : α → Prop) : PrefixFree (fun a => [a]) allowed :=
  fun _ _ _ _ _ _ same => List.cons.inj same

end PrefixFree

/-- A list without the mark is read up to the first one. -/
theorem marked_prefixFree (mark : α) : PrefixFree (fun as => as ++ [mark]) (mark ∉ ·) := by
  intro as bs absent absent' s t same
  have closed := (PrefixFree.single (· ≠ mark)).closed mark fun a other s begun =>
    other (List.cons_prefix_cons.mp begun).1
  refine closed as bs (fun a member => ?_) (fun b member => ?_) s t ?_
  · rintro rfl
    exact absent member
  · rintro rfl
    exact absent' member
  · simpa only [List.flatMap_singleton'] using same

end LintTools.Text
