import LintTools.Command.Basic
import LintTools.Proofs.Text.Quoted

/-! What the shown line of a command tells. An argument in quotes ends at its closing mark and one
without quotes at the next blank, and the first character says which of the two it is. So no two
commands share a line, as long as no argument without quotes begins with a quotation mark. -/
namespace LintTools.Command

def Bare (text : String) : Prop := text ≠ "" ∧ ∀ c ∈ text.toList, Text.isBlank c = false

/-- An argument whose first shown character says whether it stands in quotes. -/
def Discernible (text : String) : Prop := Bare text → text.toList.head? ≠ some '"'

instance (text : String) : Decidable (Bare text) :=
  decidable_of_iff (text ≠ "" ∧ text.toList.any Text.isBlank = false) (by
    rw [Bare,List.any_eq_false]
    simp only [Bool.not_eq_true])

instance (text : String) : Decidable (Discernible text) := inferInstanceAs (Decidable (_ → _))

theorem argument_eq (text : String) :
    argument text = if Bare text then text.toList else Text.quoted text.toList := by
  have awkward : (text.toList.isEmpty || text.toList.any Text.isBlank) = true ↔ ¬Bare text := by
    rw [Bool.or_eq_true,List.isEmpty_iff,String.toList_eq_nil_iff,List.any_eq_true,Bare]
    simp only [not_and_or,not_ne_iff,not_forall,exists_prop,Bool.not_eq_false]
  simp only [argument,awkward,ite_not]

theorem argument_ne_nil (text : String) : argument text ≠ [] := by
  rw [argument_eq]
  split
  · rename_i bare
    exact String.toList_eq_nil_iff.not.mpr bare.1
  · exact List.cons_ne_nil _ _

theorem Bare.unbroken {text : String} (bare : Bare text) : ' ' ∉ text.toList :=
  fun member => absurd (bare.2 ' ' member) (by decide)

theorem Bare.ne_quoted {text : String} (bare : Bare text) (discernible : Discernible text)
    (cs s t : List Char) : text.toList ++ s ≠ Text.quoted cs ++ t := by
  intro same
  have head := congrArg List.head? same
  rw [List.head?_append_of_ne_nil _ (String.toList_eq_nil_iff.not.mpr bare.1)] at head
  exact discernible bare head

def ended (text : String) : List Char := argument text ++ [' ']

theorem ended_prefixFree : Text.PrefixFree ended Discernible := by
  intro a b discernible discernible' s t same
  rw [ended,ended,argument_eq,argument_eq] at same
  -- Only two arguments that are shown in the same way can begin alike.
  split at same
  · rename_i bare
    split at same
    · rename_i bare'
      obtain ⟨text,behind⟩ := Text.marked_prefixFree ' ' _ _ bare.unbroken bare'.unbroken s t same
      exact ⟨String.toList_inj.mp text,behind⟩
    · rw [List.append_assoc,List.append_assoc] at same
      exact absurd same (bare.ne_quoted discernible _ _ _)
  · rw [List.append_assoc,List.append_assoc] at same
    split at same
    · rename_i bare'
      exact absurd same.symm (bare'.ne_quoted discernible' _ _ _)
    · obtain ⟨text,behind⟩ := Text.quoted_prefixFree _ _ trivial trivial _ _ same
      exact ⟨String.toList_inj.mp text,(List.cons.inj behind).2⟩

/-- With a blank at its end, the line is one ended argument behind the other. -/
theorem display_ended (first : String) (others : Command) :
    (display (first :: others)).toList ++ [' '] = (first :: others).flatMap ended := by
  rw [display,String.toList_ofList]
  induction others generalizing first with
  | nil => rw [List.map_singleton,List.intercalate_singleton,List.flatMap_singleton,ended]
  | cons next others ih =>
    rw [List.map_cons,List.map_cons,List.intercalate_cons_cons,List.append_assoc,← List.map_cons,
      ih next,List.flatMap_cons (x := first),ended]

theorem display_eq_empty_iff (command : Command) : command.display = "" ↔ command = [] := by
  cases command with
  | nil => exact iff_of_true rfl rfl
  | cons first others =>
    refine iff_of_false (fun empty => ?_) (List.cons_ne_nil first others)
    have line := display_ended first others
    rw [empty,List.flatMap_cons,ended,List.append_assoc] at line
    rcases List.append_eq_singleton_iff.mp line.symm with ⟨nothing,_⟩ | ⟨_,nothing⟩
    · exact argument_ne_nil first nothing
    · exact List.cons_ne_nil _ _ nothing

theorem ended_of_display_eq (x y : Command) (same : x.display = y.display) :
    x.flatMap ended = y.flatMap ended := by
  cases x with
  | nil => rw [(display_eq_empty_iff y).mp same.symm]
  | cons first others =>
    cases y with
    | nil => exact absurd ((display_eq_empty_iff _).mp same) (List.cons_ne_nil first others)
    | cons => rw [← display_ended,← display_ended,same]

/-- Two commands that are shown alike are the same, unless one has an argument that is shown as it
stands and begins with a quotation mark. -/
theorem eq_of_display_eq (x y : Command) (discernible : ∀ text ∈ x, Discernible text)
    (discernible' : ∀ text ∈ y, Discernible text) (same : x.display = y.display) : x = y := by
  have stop (text : String) (_ : Discernible text) : ¬ended text <+: [] := by
    simp [ended]
  have lines : x.flatMap ended ++ [] = y.flatMap ended ++ [] := by
    rw [ended_of_display_eq x y same]
  exact (ended_prefixFree.flatMap_append_inj [] [] stop stop x y discernible discernible' lines).1

def crowdedCommand : Command := ["ruff","it\"s","my \"file\".py","","a\\b\t\"","--all"]

theorem crowdedCommand_told : (∀ text ∈ crowdedCommand, Discernible text) ∧
    (∀ text ∈ ["ruff","it\"s"] ++ crowdedCommand.drop 2, Discernible text) ∧
    crowdedCommand.display = display (["ruff","it\"s"] ++ crowdedCommand.drop 2) ∧
    crowdedCommand = ["ruff","it\"s"] ++ crowdedCommand.drop 2 := by
  have told : ∀ text ∈ crowdedCommand, Discernible text := by decide
  have told' : ∀ text ∈ ["ruff","it\"s"] ++ crowdedCommand.drop 2, Discernible text := told
  exact ⟨told,told',rfl,eq_of_display_eq _ _ told told' rfl⟩

/-- An argument of two quotation marks is shown as an empty one is. -/
example : display ["\"\""] = display [""] := by decide

end LintTools.Command
