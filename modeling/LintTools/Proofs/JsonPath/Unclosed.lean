import LintTools.Proofs.JsonPath.Composition
import LintTools.Proofs.JsonPath.Wildcards

/-! Texts that cannot be read as paths. Reading stops only at an opening bracket with no closing one
anywhere behind it. A quoted bracket is no sign, so with quotes in the text such a bracket may be
passed over; without quotes the first of them is always reached. -/
namespace LintTools.JsonPath

def Unclosed (cs : List Char) : Prop := ∃ before after, cs = before ++ '[' :: after ∧ ']' ∉ after

theorem unclosed_cons (c : Char) (cs : List Char) :
    Unclosed (c :: cs) ↔ (c = '[' ∧ ']' ∉ cs) ∨ Unclosed cs := by
  constructor
  · rintro ⟨before,after,same,absent⟩
    cases before with
    | nil =>
      obtain ⟨opening,rest⟩ := List.cons.inj same
      exact .inl ⟨opening,rest ▸ absent⟩
    | cons d before => exact .inr ⟨before,after,(List.cons.inj same).2,absent⟩
  · rintro (⟨rfl,absent⟩ | ⟨before,after,rfl,absent⟩)
    · exact ⟨[],cs,rfl,absent⟩
    · exact ⟨c :: before,after,rfl,absent⟩

theorem bracketStep_lenient (path : String) (content : List Char) :
    ∃ step, bracketStep true path content = .ok step := by
  rcases bracketStep_beside path content with ⟨found,_⟩ | ⟨step,_,found⟩
  · exact ⟨.every,found⟩
  · exact ⟨step,found true⟩

/-- Where every opening bracket is closed behind it, reading comes to the end. -/
theorem scan_closed (path : String) (place : Place) (gathered cs : List Char)
    (closed : ¬Unclosed cs) (shut : place = .bracket → ']' ∈ cs) :
    ∃ steps, scan true path place gathered cs = .ok steps := by
  -- A bracket is entered only when it will be closed, so both conditions hold for what is left.
  induction cs generalizing place gathered with
  | nil =>
    cases place with
    | keys => exact ⟨_,rfl⟩
    | quote => exact ⟨_,rfl⟩
    | bracket => exact absurd (shut rfl) List.not_mem_nil
  | cons c rest ih =>
    have further : ¬Unclosed rest := fun left => closed ((unclosed_cons c rest).mpr (.inr left))
    cases place with
    | quote =>
      rw [scan]
      split
      · exact ih .keys gathered further (by simp)
      · exact ih .quote (gathered ++ [c]) further (by simp)
    | bracket =>
      rw [scan]
      split
      · obtain ⟨step,found⟩ := bracketStep_lenient path (Text.strip gathered)
        obtain ⟨steps,scanned⟩ := ih .keys [] further (by simp)
        exact ⟨step :: steps,by rw [found,scanned]; rfl⟩
      · rename_i other
        have left : ']' ∈ rest := List.mem_of_ne_of_mem (Ne.symm other) (shut rfl)
        exact ih .bracket (gathered ++ [c]) further fun _ => left
    | keys =>
      have ended (place : Place) (left : place = .bracket → ']' ∈ rest) : ∃ steps,
          (do return keyStep gathered ++ (← scan true path place [] rest)) = Except.ok steps := by
        obtain ⟨steps,scanned⟩ := ih place [] further left
        exact ⟨keyStep gathered ++ steps,by rw [scanned]; rfl⟩
      rw [scan]
      split
      · exact ended .keys (by simp)
      · split
        · exact ih .quote gathered further (by simp)
        · split
          · rename_i opening
            split
            · rename_i found
              exact ended .bracket fun _ => List.contains_iff_mem.mp found
            · rename_i missing
              rw [List.contains_iff_mem] at missing
              exact absurd ((unclosed_cons c rest).mpr (.inl ⟨opening,missing⟩)) closed
          · exact ih .keys (gathered ++ [c]) further (by simp)

/-- Without quotes the first unclosed bracket is reached, for all that stands before it can be read. -/
theorem scan_unclosed (path : String) (before after : List Char) (clear : '"' ∉ before)
    (absent : ']' ∉ after) :
    scan true path .keys [] (before ++ '[' :: after) = .error (.unmatchedBracket path) := by
  -- An earlier one is unclosed in the whole text too; the first of them ends what can be read alone.
  by_cases earlier : Unclosed before
  · obtain ⟨first,between,rfl,absentToo⟩ := earlier
    rw [List.append_assoc,List.cons_append]
    simp only [List.mem_append,not_or] at clear
    exact scan_unclosed path first (between ++ '[' :: after) clear.1 (by simp [absentToo,absent])
  · obtain ⟨steps,scanned⟩ := scan_closed path .keys [] before earlier (by simp)
    have stops (gathered : List Char) : scan true path .keys gathered ('[' :: after) =
        (keyStep gathered ++ ·) <$> Except.error (.unmatchedBracket path) := by
      simp [scan,absent]
    rw [scan_seam true path _ _ stops .keys (by simp) [] before steps clear scanned]
    rfl
termination_by before.length

/-- A text can be read unless it has an unclosed bracket, and that bracket is all that reading ever
reports, under the text itself. In a text without quotes an unclosed bracket is always reported. -/
theorem read_fails_iff_unclosed (text : String) :
    (∀ error, read true text = .error error →
        error = .unmatchedBracket text ∧ Unclosed text.toList) ∧
      ('"' ∉ text.toList →
        (read true text = .error (.unmatchedBracket text) ↔ Unclosed text.toList)) := by
  have stopped (error : Error) (failed : read true text = .error error) :
      Unclosed text.toList := by
    by_contra closed
    obtain ⟨steps,scanned⟩ := scan_closed text .keys [] text.toList closed (by simp)
    rw [read_eq,scanned] at failed
    cases failed
  refine ⟨fun error failed => ⟨?_,stopped error failed⟩,fun clear => ⟨stopped _,?_⟩⟩
  · rcases read_cases text with ⟨path,_,alike⟩ | ⟨path,_,lenient,_⟩ | ⟨broken,_⟩
    · rw [alike true] at failed
      cases failed
    · rw [lenient] at failed
      cases failed
    · rw [broken] at failed
      exact (Except.error.inj failed).symm
  · rintro ⟨before,after,same,absent⟩
    rw [same] at clear
    have reached := scan_unclosed text before after
      (fun member => clear (List.mem_append_left _ member)) absent
    rw [read_eq,same,reached]
    rfl

/-- Brackets in quotes and behind each other in the first text; in the second, which has no quotes,
brackets inside a bracket, closing ones alone, and an unclosed one before another. -/
theorem read_fails_samples :
    (read true "\"a[\"].b[0" = .error (.unmatchedBracket "\"a[\"].b[0") ∧
        Unclosed "\"a[\"].b[0".toList) ∧
      '"' ∉ "a[b[0]].c]d[e.f[g".toList ∧ Unclosed "a[b[0]].c]d[e.f[g".toList ∧
      read true "a[b[0]].c]d[e.f[g" = .error (.unmatchedBracket "a[b[0]].c]d[e.f[g") := by
  have failed : read true "\"a[\"].b[0" = .error (.unmatchedBracket "\"a[\"].b[0") := rfl
  have clear : '"' ∉ "a[b[0]].c]d[e.f[g".toList := by decide
  have unclosed : Unclosed "a[b[0]].c]d[e.f[g".toList :=
    ⟨"a[b[0]].c]d".toList,"e.f[g".toList,rfl,by decide⟩
  exact ⟨⟨failed,((read_fails_iff_unclosed _).1 _ failed).2⟩,clear,unclosed,
    ((read_fails_iff_unclosed _).2 clear).mpr unclosed⟩

/-- A quoted bracket need not be closed. -/
example : read true "\"a[\"" = .ok ⟨[.key "a["]⟩ := rfl

end LintTools.JsonPath
