import LintTools.Proofs.JsonPath.Scanning
import Mathlib

/-! Paths that are read in parts. A point ends the step before it and a bracket starts anew, so up to
such a seam a text is read as if it ended there, and the steps of the parts come one behind the
other. -/
namespace LintTools.JsonPath
open LintTools.Reading (bind_success map_success)
open LintTools.Text (strip)

/-- Steps in front of a reading that already has steps in front. -/
private theorem return_behind (first later : List Step) (behind : Except Error (List Step)) :
    (do return first ++ (← (later ++ ·) <$> behind)) = ((first ++ later) ++ ·) <$> behind := by
  cases behind <;> simp [bind,Except.bind,Functor.map,Except.map,pure,Except.pure]

/-- A text in front of a seam is read as it is read alone. The seam may be anything that ends the
step before it. -/
theorem scan_seam (wildcards : Bool) (path : String) (rest : List Char)
    (behind : Except Error (List Step))
    (seam : ∀ gathered, scan wildcards path .keys gathered rest =
      (keyStep gathered ++ ·) <$> behind)
    (place : Place) (outside : place ≠ .quote) (gathered head : List Char) (steps : List Step)
    (clear : '"' ∉ head) (read : scan wildcards path place gathered head = .ok steps) :
    scan wildcards path place gathered (head ++ rest) = (steps ++ ·) <$> behind := by
  induction head generalizing place gathered steps with
  | nil =>
    cases place with
    | keys =>
      simp only [scan,Except.ok.injEq] at read
      rw [List.nil_append,seam gathered,read]
    | quote => exact absurd rfl outside
    | bracket => simp [scan] at read
  | cons c head ih =>
    simp only [List.mem_cons,not_or] at clear
    obtain ⟨unquoted,clear⟩ := clear
    have further := ih .keys (by simp) []
    rw [List.cons_append]
    cases place with
    | quote => exact absurd rfl outside
    | bracket =>
      rw [scan] at read ⊢
      split at read
      · rename_i closing
        obtain ⟨step,found,read⟩ := (bind_success _ _ _).mp read
        obtain ⟨later,scanned,same⟩ := (bind_success _ _ _).mp read
        cases same
        rw [if_pos closing,found,further later clear scanned]
        exact return_behind [step] later behind
      · rename_i open'
        rw [if_neg open']
        exact ih .bracket (by simp) _ steps clear read
    | keys =>
      rw [scan] at read ⊢
      split at read
      · rename_i point
        obtain ⟨later,scanned,same⟩ := (bind_success _ _ _).mp read
        cases same
        rw [if_pos point,further later clear scanned]
        exact return_behind (keyStep gathered) later behind
      · rename_i point
        have literal : ¬(c = '"' ∧ head.contains '"' = true) := by simp [Ne.symm unquoted]
        have literalToo : ¬(c = '"' ∧ (head ++ rest).contains '"' = true) := by
          simp [Ne.symm unquoted]
        rw [if_neg literal] at read
        rw [if_neg point,if_neg literalToo]
        split at read
        · rename_i opening
          split at read
          · rename_i closes
            obtain ⟨later,scanned,same⟩ := (bind_success _ _ _).mp read
            cases same
            have closesToo : (head ++ rest).contains ']' = true := by
              simp_all [List.contains_eq_mem]
            rw [if_pos opening,if_pos closesToo,ih .bracket (by simp) [] later clear scanned]
            exact return_behind (keyStep gathered) later behind
          · contradiction
        · rename_i plain
          rw [if_neg plain]
          exact ih .keys (by simp) _ steps clear read

section Seams
variable (wildcards : Bool) (path : String) (first rest : List Char) (steps : List Step)
  (clear : '"' ∉ first) (scanned : scan wildcards path .keys [] first = .ok steps)
include clear scanned

theorem scan_append_point (result : List Step) :
    scan wildcards path .keys [] (first ++ '.' :: rest) = .ok result ↔
      ∃ later, scan wildcards path .keys [] rest = .ok later ∧ steps ++ later = result := by
  have seam := scan_seam wildcards path ('.' :: rest) _
    (fun gathered => scan_point wildcards path gathered rest) .keys (by simp) [] first steps clear
    scanned
  rw [seam,map_success]

theorem scan_append_bracket (inner : List Char) (closed : ']' ∉ inner) (result : List Step) :
    scan wildcards path .keys [] (first ++ '[' :: (inner ++ ']' :: rest)) = .ok result ↔
      ∃ step later, bracketStep wildcards path (strip inner) = .ok step ∧
        scan wildcards path .keys [] rest = .ok later ∧ steps ++ step :: later = result := by
  have seam := scan_seam wildcards path ('[' :: (inner ++ ']' :: rest)) _
    (fun gathered => scan_bracket wildcards path gathered inner rest closed) .keys (by simp) []
    first steps clear scanned
  rw [seam,map_success]
  constructor
  · rintro ⟨_,found,same⟩
    obtain ⟨step,single,found⟩ := (bind_success _ _ _).mp found
    obtain ⟨later,read,found⟩ := (bind_success _ _ _).mp found
    cases found
    exact ⟨step,later,single,read,same⟩
  · rintro ⟨step,later,single,read,same⟩
    refine ⟨step :: later,?_,same⟩
    rw [single,read]
    rfl

end Seams

theorem scan_single_bracket (wildcards : Bool) (path : String) (inner : List Char)
    (closed : ']' ∉ inner) (result : List Step) :
    scan wildcards path .keys [] ('[' :: (inner ++ [']'])) = .ok result ↔
      ∃ step, bracketStep wildcards path (strip inner) = .ok step ∧ [step] = result := by
  have alone := scan_append_bracket wildcards path [] [] [] (by simp) rfl inner closed result
  have ended : scan wildcards path .keys [] [] = .ok [] := rfl
  simp only [List.nil_append,ended,Except.ok.injEq] at alone
  rw [alone]
  constructor
  · rintro ⟨step,_,single,rfl,same⟩
    exact ⟨step,single,same⟩
  · rintro ⟨step,single,same⟩
    exact ⟨step,[],single,rfl,same⟩

/-- Behind a text that can be read, and that holds no quotes, a point or a bracket starts anew: what
follows is read as it is read alone, and its steps come behind those of the text. -/
theorem read_composes (wildcards : Bool) (first : String) (head : JsonPath)
    (clear : '"' ∉ first.toList) (readable : read wildcards first = .ok head) :
    (∀ rest result, read wildcards (first ++ "." ++ rest) = .ok result ↔
      ∃ tail, read wildcards rest = .ok tail ∧ result.steps = head.steps ++ tail.steps) ∧
    ∀ inner rest result, ']' ∉ inner.toList →
      (read wildcards (first ++ "[" ++ inner ++ "]" ++ rest) = .ok result ↔
        ∃ middle tail, read wildcards ("[" ++ inner ++ "]") = .ok middle ∧
          read wildcards rest = .ok tail ∧
          result.steps = head.steps ++ middle.steps ++ tail.steps) := by
  obtain ⟨steps,scanned,headSteps⟩ := (read_iff wildcards "" first head).mp readable
  constructor
  · intro rest result
    have seam := scan_append_point wildcards "" first.toList rest.toList steps clear scanned
    have text : (first ++ "." ++ rest).toList = first.toList ++ '.' :: rest.toList := by simp
    simp only [read_iff wildcards "",text,seam]
    constructor
    · rintro ⟨_,⟨later,read,rfl⟩,same⟩
      refine ⟨⟨later.filter (!·.isRoot)⟩,⟨later,read,rfl⟩,?_⟩
      rw [same,headSteps,List.filter_append]
    · rintro ⟨tail,⟨later,read,tailSteps⟩,same⟩
      refine ⟨steps ++ later,⟨later,read,rfl⟩,?_⟩
      rw [same,headSteps,tailSteps,List.filter_append]
  · intro inner rest result closed
    have seam := scan_append_bracket wildcards "" first.toList rest.toList steps clear scanned
      inner.toList closed
    have alone := scan_single_bracket wildcards "" inner.toList closed
    have text : (first ++ "[" ++ inner ++ "]" ++ rest).toList =
        first.toList ++ '[' :: (inner.toList ++ ']' :: rest.toList) := by simp
    have bracket : ("[" ++ inner ++ "]").toList = '[' :: (inner.toList ++ [']']) := by simp
    have three (step : Step) (later : List Step) : (steps ++ step :: later).filter (!·.isRoot) =
        steps.filter (!·.isRoot) ++ [step].filter (!·.isRoot) ++ later.filter (!·.isRoot) := by
      rw [← List.filter_append,← List.filter_append,List.append_assoc,List.singleton_append]
    simp only [read_iff wildcards "",text,bracket,seam,alone]
    constructor
    · rintro ⟨_,⟨step,later,single,read,rfl⟩,same⟩
      refine ⟨⟨[step].filter (!·.isRoot)⟩,⟨later.filter (!·.isRoot)⟩,⟨[step],⟨step,single,rfl⟩,rfl⟩,
        ⟨later,read,rfl⟩,?_⟩
      rw [same,headSteps,three]
    · rintro ⟨middle,tail,⟨_,⟨step,single,rfl⟩,middleSteps⟩,⟨later,read,tailSteps⟩,same⟩
      refine ⟨steps ++ step :: later,⟨step,later,single,read,rfl⟩,?_⟩
      rw [same,headSteps,middleSteps,tailSteps,three]

/-- Quotes, blanks and an empty bracket behind a path that ends with one. -/
theorem read_indexed_parts :
    '"' ∉ " $.rows [-1] ".toList ∧ ']' ∉ " \"a.b\" ".toList ∧
      read true " $.rows [-1] " = .ok ⟨[.key "rows",.index (-1)]⟩ ∧
      ∀ result, read true (" $.rows [-1] " ++ "[" ++ " \"a.b\" " ++ "]" ++ ".\"c d\".[]") =
          .ok result ↔
        ∃ middle tail, read true ("[" ++ " \"a.b\" " ++ "]") = .ok middle ∧
          read true ".\"c d\".[]" = .ok tail ∧
          result.steps = [.key "rows",.index (-1)] ++ middle.steps ++ tail.steps := by
  have clear : '"' ∉ " $.rows [-1] ".toList := by decide
  have closed : ']' ∉ " \"a.b\" ".toList := by decide
  have readable : read true " $.rows [-1] " = .ok ⟨[.key "rows",.index (-1)]⟩ := by cbv
  exact ⟨clear,closed,readable,fun result =>
    (read_composes true _ _ clear readable).2 " \"a.b\" " ".\"c d\".[]" result closed⟩

end LintTools.JsonPath
