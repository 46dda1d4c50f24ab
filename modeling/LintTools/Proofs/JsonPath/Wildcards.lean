import LintTools.Proofs.JsonPath.Scanning

/-! Paths read with and without steps over every element. The two readings walk over a text side by
side: they end the same keys, enter the same brackets and find the same ones unmatched. Only a
bracket that stands for every element tells them apart, and there the strict reading stops. -/
namespace LintTools.JsonPath
open LintTools.Reading (map_success)

/-- What the lenient reading of `path` gives, and what the strict one may give beside it. A text that
is broken for the first may already have stopped the second at an earlier bracket. -/
inductive Beside (path : String) :
    (lenient strict : Except Error (List Step)) → Prop where
  | single (steps : List Step) (free : .every ∉ steps) : Beside path (.ok steps) (.ok steps)
  | starred (steps : List Step) (found : .every ∈ steps) :
    Beside path (.ok steps) (.error (.wildcardNotPermitted path))
  | broken (error : Error) : Beside path (.error (.unmatchedBracket path)) (.error error)

section Steps
variable {path : String} {lenient strict : Except Error (List Step)}

theorem every_not_mem_keyStep (gathered : List Char) : .every ∉ keyStep gathered := by
  unfold keyStep
  dsimp only
  split <;> simp

theorem Beside.behind (first : List Step) (free : .every ∉ first) (beside : Beside path lenient strict) :
    Beside path ((first ++ ·) <$> lenient) ((first ++ ·) <$> strict) := by
  cases beside with
  | single steps rest =>
    apply Beside.single
    simp [free,rest]
  | starred steps found =>
    apply Beside.starred
    simp [found]
  | broken error => exact .broken error

/-- Both readings find the same step in a bracket, unless it is a step over every element. -/
theorem bracketStep_beside (path : String) (content : List Char) :
    (bracketStep true path content = .ok .every ∧
        bracketStep false path content = .error (.wildcardNotPermitted path)) ∨
      ∃ step, step ≠ .every ∧ ∀ wildcards, bracketStep wildcards path content = .ok step := by
  by_cases star : content = [] ∨ content = ['*']
  · left
    simp [bracketStep,star]
  · right
    simp only [bracketStep,if_neg star]
    split
    · exact ⟨.index _,by simp,fun _ => rfl⟩
    · exact ⟨.key _,by simp,fun _ => rfl⟩

theorem Beside.bracket (content : List Char) (beside : Beside path lenient strict) :
    Beside path
      (do let step ← bracketStep true path content; return step :: (← lenient))
      (do let step ← bracketStep false path content; return step :: (← strict)) := by
  rcases bracketStep_beside path content with ⟨every,refused⟩ | ⟨step,other,found⟩
  · rw [every,refused]
    cases beside with
    | single steps free => exact .starred (.every :: steps) List.mem_cons_self
    | starred steps found => exact .starred (.every :: steps) List.mem_cons_self
    | broken error => exact .broken _
  · rw [found true,found false]
    exact beside.behind [step] (by simpa using other.symm)

theorem scan_beside (path : String) (place : Place) (gathered cs : List Char) :
    Beside path (scan true path place gathered cs) (scan false path place gathered cs) := by
  -- The flag has no say in where a reading goes next: both take the same branch at every character.
  induction cs generalizing place gathered with
  | nil =>
    cases place with
    | keys => exact .single _ (every_not_mem_keyStep gathered)
    | quote => exact .single _ (every_not_mem_keyStep gathered)
    | bracket => exact .broken _
  | cons c rest ih =>
    cases place with
    | quote =>
      rw [scan,scan]
      split
      · exact ih .keys gathered
      · exact ih .quote (gathered ++ [c])
    | bracket =>
      rw [scan,scan]
      split
      · exact (ih .keys []).bracket (Text.strip gathered)
      · exact ih .bracket (gathered ++ [c])
    | keys =>
      have ended (place : Place) := (ih place []).behind _ (every_not_mem_keyStep gathered)
      simp only [map_eq_pure_bind] at ended
      rw [scan,scan]
      split
      · exact ended .keys
      · split
        · exact ih .quote gathered
        · split
          · split
            · exact ended .bracket
            · exact .broken _
          · exact ih .keys (gathered ++ [c])

end Steps

theorem hasEvery_iff (path : JsonPath) : path.hasEvery = true ↔ .every ∈ path.steps :=
  List.contains_iff_mem

theorem hasEvery_filter (steps : List Step) :
    hasEvery ⟨steps.filter (!·.isRoot)⟩ = true ↔ .every ∈ steps := by
  rw [hasEvery_iff,List.mem_filter]
  exact and_iff_left rfl

/-- The three ways in which a text can be read: alike, only with wildcards, and not at all. -/
theorem read_cases (text : String) :
    (∃ path : JsonPath, path.hasEvery = false ∧ ∀ wildcards, read wildcards text = .ok path) ∨
      (∃ path : JsonPath, path.hasEvery = true ∧ read true text = .ok path ∧
        read false text = .error (.wildcardNotPermitted text)) ∨
      read true text = .error (.unmatchedBracket text) ∧
        ∃ error, read false text = .error error := by
  have beside := scan_beside text .keys [] text.toList
  simp only [read_eq,Bool.forall_bool]
  generalize scan true text .keys [] text.toList = lenient at beside
  generalize scan false text .keys [] text.toList = strict at beside
  cases beside with
  | single steps free =>
    refine .inl ⟨⟨steps.filter (!·.isRoot)⟩,?_,rfl,rfl⟩
    rwa [← Bool.not_eq_true,hasEvery_filter]
  | starred steps found =>
    exact .inr (.inl ⟨_,(hasEvery_filter steps).mpr found,rfl,rfl⟩)
  | broken error => exact .inr (.inr ⟨rfl,error,rfl⟩)

theorem read_single (text : String) (path : JsonPath) (found : read false text = .ok path) :
    path.hasEvery = false := by
  rcases read_cases text with ⟨same,single,alike⟩ | ⟨_,_,_,refused⟩ | ⟨_,_,refused⟩
  · rw [alike false,Except.ok.injEq] at found
    rwa [← found]
  · rw [refused] at found
    cases found
  · rw [refused] at found
    cases found

theorem read_rootless (wildcards : Bool) (text : String) (path : JsonPath)
    (found : read wildcards text = .ok path) (step : Step) (member : step ∈ path.steps) :
    step.isRoot = false := by
  rw [read_eq] at found
  obtain ⟨steps,_,rfl⟩ := (map_success _ _ _).mp found
  simpa using (List.mem_filter.mp member).2

/-- The strict reading of a text gives what the lenient one gives, unless that has a step over every
element or fails; then it fails too, in the first case because of that step. No reading gives the
root sign or an empty key. -/
theorem read_strict (text : String) :
    (∀ reported, read true text ≠ .error (.wildcardNotPermitted reported)) ∧
      (∀ path, read true text = .ok path → path.hasEvery = false → read false text = .ok path) ∧
      (∀ path, read true text = .ok path → path.hasEvery = true →
        read false text = .error (.wildcardNotPermitted text)) ∧
      (∀ error, read true text = .error error → ∃ other, read false text = .error other) ∧
      ∀ wildcards path, read wildcards text = .ok path →
        .key "" ∉ path.steps ∧ .key "$" ∉ path.steps := by
  have rootless (wildcards : Bool) (path : JsonPath) (found : read wildcards text = .ok path) :
      .key "" ∉ path.steps ∧ .key "$" ∉ path.steps := by
    constructor <;> intro member <;>
      exact absurd (read_rootless wildcards text path found _ member) (by decide)
  rcases read_cases text with ⟨path,single,alike⟩ | ⟨path,starred,lenient,strict⟩ |
    ⟨broken,error,strict⟩
  · refine ⟨by simp [alike true],?_,?_,by simp [alike true],rootless⟩
    · intro other found _
      rw [alike true] at found
      rw [alike false,found]
    · intro other found every
      rw [alike true,Except.ok.injEq] at found
      rw [← found,single] at every
      contradiction
  · refine ⟨by simp [lenient],?_,fun _ _ _ => strict,by simp [lenient],rootless⟩
    intro other found single
    rw [lenient,Except.ok.injEq] at found
    rw [← found,starred] at single
    contradiction
  · refine ⟨by simp [broken],?_,?_,fun _ _ => ⟨error,strict⟩,rootless⟩
    · intro other found
      rw [broken] at found
      cases found
    · intro other found
      rw [broken] at found
      cases found

/-- A quoted bracket and the root sign in one path, a wildcard in the second, and a third that is
broken behind its wildcard. -/
theorem read_strict_samples :
    read true " $.\"a[*]\".b[-1]" = .ok ⟨[.key "a[*]",.key "b",.index (-1)]⟩ ∧
      read false " $.\"a[*]\".b[-1]" = .ok ⟨[.key "a[*]",.key "b",.index (-1)]⟩ ∧
      read true "runs[ ].id" = .ok ⟨[.key "runs",.every,.key "id"]⟩ ∧
      read false "runs[ ].id" = .error (.wildcardNotPermitted "runs[ ].id") ∧
      read true "runs[*].ids[0" = .error (.unmatchedBracket "runs[*].ids[0") ∧
      (∃ other, read false "runs[*].ids[0" = .error other) ∧
      .key "$" ∉ [Step.key "a[*]",.key "b",.index (-1)] := by
  have quoted : read true " $.\"a[*]\".b[-1]" = .ok ⟨[.key "a[*]",.key "b",.index (-1)]⟩ := rfl
  have starred : read true "runs[ ].id" = .ok ⟨[.key "runs",.every,.key "id"]⟩ := rfl
  have broken : read true "runs[*].ids[0" = .error (.unmatchedBracket "runs[*].ids[0") := rfl
  obtain ⟨_,single,_,_,rootless⟩ := read_strict " $.\"a[*]\".b[-1]"
  obtain ⟨_,_,refused,_,_⟩ := read_strict "runs[ ].id"
  obtain ⟨_,_,_,failed,_⟩ := read_strict "runs[*].ids[0"
  exact ⟨quoted,single _ quoted rfl,starred,refused _ starred rfl,broken,failed _ broken,
    (rootless true _ quoted).2⟩

end LintTools.JsonPath
