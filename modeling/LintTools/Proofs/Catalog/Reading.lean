import LintTools.Catalog.Entry

/-! Readings that may fail. A composed reading succeeds exactly when each of its parts does. -/
namespace LintTools.Reading
variable {ε α β : Type}

theorem bind_success (first : Except ε α) (next : α → Except ε β) (result : β) :
    (first >>= next) = .ok result ↔ ∃ value, first = .ok value ∧ next value = .ok result := by
  cases first with
  | error error => simp [bind,Except.bind]
  | ok value => simp [bind,Except.bind]

theorem pure_success (value result : α) :
    (pure value : Except ε α) = .ok result ↔ value = result :=
  Except.ok.injEq value result ▸ Iff.rfl

theorem ok_bind (value : α) (next : α → Except ε β) : (Except.ok value >>= next) = next value := rfl

theorem map_success (change : α → β) (first : Except ε α) (result : β) :
    change <$> first = .ok result ↔ ∃ value, first = .ok value ∧ change value = result := by
  cases first <;> simp [Functor.map,Except.map]

theorem toOption_bind (first : Except ε α) (next : α → Except ε β) :
    (first >>= next).toOption = first.toOption.bind fun value => (next value).toOption := by
  cases first <;> rfl

theorem toOption_success (first : Except ε α) (value : α) :
    first.toOption = some value ↔ first = .ok value := by
  cases first <;> simp [Except.toOption]

end LintTools.Reading

namespace LintTools

theorem requireObject_success (value : Json) (context : String) (reason : Reason) (entry : Entries)
    (compiled : requireObject value context reason = .ok entry) : value = .obj entry := by
  unfold requireObject at compiled
  split at compiled
  · rw [Except.ok.inj compiled]
  · cases compiled

theorem requireObjectAt_success (entry : Entries) (key context : String) (found : Entries)
    (compiled : requireObjectAt entry key context = .ok found) :
    entry.get? key = some (.obj found) := by
  unfold requireObjectAt at compiled
  split at compiled
  · rename_i given
    rw [given,Except.ok.inj compiled]
  · cases compiled

theorem requireArguments_filled (entry : Entries) (key context : String) (arguments : List String)
    (compiled : requireArguments entry key context = .ok arguments) : arguments ≠ [] := by
  unfold requireArguments at compiled
  split at compiled
  · cases compiled
  · rename_i items filled _
    obtain rfl := Except.ok.inj compiled
    simpa using filled
  · cases compiled

end LintTools
