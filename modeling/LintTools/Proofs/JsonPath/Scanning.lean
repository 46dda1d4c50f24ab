import LintTools.JsonPath.Written
import LintTools.Proofs.Catalog.Reading
import LintTools.Proofs.Text.Trimmed

/-! What the reading of a path depends on. A character that is no sign is gathered wherever reading
stands; a point ends the step before it, and a bracket holds one step. Blanks around a text, and the
name under which it is reported when it cannot be read, have no influence on its steps. -/
namespace LintTools.JsonPath
open LintTools.Reading (map_success toOption_bind toOption_success)
open LintTools.Text (Blank Trimmed strip)

theorem keyStep_blank_append (gap gathered : List Char) (blank : Blank gap) :
    keyStep (gap ++ gathered) = keyStep gathered := by
  rw [keyStep,Text.strip_blank_append gap gathered blank,keyStep]

theorem keyStep_append_blank (gathered gap : List Char) (blank : Blank gap) :
    keyStep (gathered ++ gap) = keyStep gathered := by
  rw [keyStep,Text.strip_append_blank gathered gap blank,keyStep]

/-- A trimmed key is the step that it stands for. -/
theorem keyStep_trimmed (name : String) (filled : name ≠ "") (trimmed : Trimmed name.toList) :
    keyStep name.toList = [.key name] := by
  rw [keyStep,(Text.strip_eq_self_iff _).mpr trimmed]
  simp [filled]

def isSign (c : Char) : Bool := c = '.' || c = '"' || c = '[' || c = ']'

theorem isSign_blank (c : Char) (blank : Text.isBlank c = true) : isSign c = false := by
  rw [← Bool.not_eq_true]
  intro sign
  simp only [isSign,Bool.or_eq_true,decide_eq_true_eq] at sign
  rcases sign with ((rfl | rfl) | rfl) | rfl <;> exact absurd blank (by decide)

theorem contains_append_blank (sign : Char) (cs gap : List Char) (visible : isSign sign = true)
    (blank : Blank gap) : (cs ++ gap).contains sign = cs.contains sign := by
  have absent : sign ∉ gap := by
    intro member
    have plain := isSign_blank sign (blank sign member)
    simp [plain] at visible
  simp [List.contains_eq_mem,absent]

section Reading
variable (wildcards : Bool) (path : String)

theorem scan_plain (place : Place) (gathered rest : List Char) (c : Char)
    (plain : isSign c = false) :
    scan wildcards path place gathered (c :: rest) =
      scan wildcards path place (gathered ++ [c]) rest := by
  simp only [isSign,Bool.or_eq_false_iff,decide_eq_false_iff_not] at plain
  obtain ⟨⟨⟨point,quote⟩,opening⟩,closing⟩ := plain
  cases place <;> simp [scan,point,quote,opening,closing]

theorem scan_literal (place : Place) (gathered word rest : List Char)
    (plain : ∀ c ∈ word, isSign c = false) :
    scan wildcards path place gathered (word ++ rest) =
      scan wildcards path place (gathered ++ word) rest := by
  induction word generalizing gathered with
  | nil => rw [List.nil_append,List.append_nil]
  | cons c word ih =>
    have behind := ih (gathered ++ [c]) fun d member => plain d (List.mem_cons_of_mem c member)
    rw [List.cons_append,scan_plain wildcards path place gathered _ c (plain c List.mem_cons_self),
      behind,List.append_assoc,List.singleton_append]

theorem scan_point (gathered rest : List Char) :
    scan wildcards path .keys gathered ('.' :: rest) =
      (keyStep gathered ++ ·) <$> scan wildcards path .keys [] rest := by
  rw [scan,if_pos rfl,map_eq_pure_bind]

/-- Up to its end a bracket holds one step. -/
theorem scan_inside (gathered inner rest : List Char) (clear : ']' ∉ inner) :
    scan wildcards path .bracket gathered (inner ++ ']' :: rest) =
      (do
        let step ← bracketStep wildcards path (strip (gathered ++ inner))
        return step :: (← scan wildcards path .keys [] rest)) := by
  induction inner generalizing gathered with
  | nil => rw [List.nil_append,List.append_nil,scan,if_pos rfl]
  | cons c inner ih =>
    simp only [List.mem_cons,not_or] at clear
    obtain ⟨other,clear⟩ := clear
    rw [List.cons_append,scan,if_neg (Ne.symm other),ih _ clear,List.append_assoc,
      List.singleton_append]

theorem scan_bracket (gathered inner rest : List Char) (clear : ']' ∉ inner) :
    scan wildcards path .keys gathered ('[' :: (inner ++ ']' :: rest)) =
      (keyStep gathered ++ ·) <$> (do
        let step ← bracketStep wildcards path (strip inner)
        return step :: (← scan wildcards path .keys [] rest)) := by
  have inside := scan_inside wildcards path [] inner rest clear
  rw [List.nil_append] at inside
  rw [← inside,map_eq_pure_bind]
  simp [scan]

/-- A quoted word is gathered as it is, whatever signs it holds. -/
theorem scan_quoted (gathered word rest : List Char) (clear : '"' ∉ word) :
    scan wildcards path .keys gathered ('"' :: (word ++ '"' :: rest)) =
      scan wildcards path .keys (gathered ++ word) rest := by
  have inside (gathered : List Char) : scan wildcards path .quote gathered (word ++ '"' :: rest) =
      scan wildcards path .keys (gathered ++ word) rest := by
    induction word generalizing gathered with
    | nil => rw [List.nil_append,List.append_nil,scan,if_pos rfl]
    | cons c word ih =>
      simp only [List.mem_cons,not_or] at clear
      obtain ⟨other,clear⟩ := clear
      rw [List.cons_append,scan,if_neg (Ne.symm other),ih clear,List.append_assoc,
        List.singleton_append]
  rw [← inside,scan]
  simp

/-- Blanks before what is gathered count for nothing, among keys and behind a quote alike. -/
theorem scan_gathered_blank (gap gathered rest : List Char) (blank : Blank gap) :
    scan wildcards path .keys (gap ++ gathered) rest = scan wildcards path .keys gathered rest ∧
      scan wildcards path .quote (gap ++ gathered) rest =
        scan wildcards path .quote gathered rest := by
  induction rest generalizing gathered with
  | nil => simp only [scan,keyStep_blank_append gap gathered blank,and_self]
  | cons c rest ih =>
    obtain ⟨keys,quote⟩ := ih gathered
    obtain ⟨longerKeys,longerQuote⟩ := ih (gathered ++ [c])
    rw [← List.append_assoc] at longerKeys longerQuote
    constructor
    · simp only [scan,keyStep_blank_append gap gathered blank,longerKeys,quote]
    · simp only [scan,longerQuote,keys]

theorem scan_blank (place : Place) (gathered gap : List Char) (blank : Blank gap) :
    scan wildcards path place gathered gap = scan wildcards path place gathered [] := by
  induction gap generalizing gathered with
  | nil => rfl
  | cons c gap ih =>
    have dark := blank c List.mem_cons_self
    have behind := ih (gathered ++ [c]) fun d member => blank d (List.mem_cons_of_mem c member)
    have single : Blank [c] := by simpa [Blank] using dark
    rw [scan_plain wildcards path place gathered gap c (isSign_blank c dark),behind]
    cases place <;> simp only [scan,keyStep_append_blank gathered [c] single]

theorem scan_append_blank (place : Place) (gathered cs gap : List Char) (blank : Blank gap) :
    scan wildcards path place gathered (cs ++ gap) = scan wildcards path place gathered cs := by
  induction cs generalizing place gathered with
  | nil => exact scan_blank wildcards path place gathered gap blank
  | cons c cs ih =>
    have quotes := contains_append_blank '"' cs gap (by decide) blank
    have brackets := contains_append_blank ']' cs gap (by decide) blank
    rw [List.cons_append]
    cases place <;> simp only [scan,ih,quotes,brackets]

theorem scan_strip (cs : List Char) :
    scan wildcards path .keys [] (strip cs) = scan wildcards path .keys [] cs := by
  obtain ⟨before,after,blankBefore,blankAfter,same⟩ := Text.strip_gaps cs
  have plain : ∀ c ∈ before, isSign c = false := fun c member => isSign_blank c (blankBefore c member)
  have dropped := (scan_gathered_blank wildcards path before [] (strip cs ++ after) blankBefore).1
  rw [List.append_nil] at dropped
  conv_rhs => rw [same,scan_literal wildcards path .keys [] before _ plain,List.nil_append,dropped,
    scan_append_blank wildcards path .keys [] (strip cs) after blankAfter]

end Reading

section Names
variable (wildcards : Bool) (path other : String)

theorem bracketStep_rename (content : List Char) :
    (bracketStep wildcards path content).toOption =
      (bracketStep wildcards other content).toOption := by
  unfold bracketStep
  split
  · cases wildcards <;> rfl
  · rfl

/-- A path that can be read gives the same steps under every name. -/
theorem scan_rename (place : Place) (gathered cs : List Char) :
    (scan wildcards path place gathered cs).toOption =
      (scan wildcards other place gathered cs).toOption := by
  induction cs generalizing place gathered with
  | nil => cases place <;> rfl
  | cons c cs ih =>
    have steps := bracketStep_rename wildcards path other
    cases place with
    | keys =>
      simp only [scan,apply_ite Except.toOption,toOption_bind,ih]
      rfl
    | quote => simp only [scan,apply_ite Except.toOption,ih]
    | bracket => simp only [scan,apply_ite Except.toOption,toOption_bind,ih,steps]

theorem read_eq (text : String) : read wildcards text =
    (fun steps => ⟨steps.filter (!·.isRoot)⟩) <$> scan wildcards text .keys [] text.toList := by
  rw [read,scan_strip,map_eq_pure_bind]

theorem read_iff (text : String) (result : JsonPath) :
    read wildcards text = .ok result ↔ ∃ steps,
      scan wildcards path .keys [] text.toList = .ok steps ∧
        result.steps = steps.filter (!·.isRoot) := by
  have renamed (steps : List Step) : scan wildcards text .keys [] text.toList = .ok steps ↔
      scan wildcards path .keys [] text.toList = .ok steps := by
    rw [← toOption_success,scan_rename wildcards text path,toOption_success]
  rw [read_eq,map_success]
  simp only [renamed]
  constructor
  · rintro ⟨steps,scanned,rfl⟩
    exact ⟨steps,scanned,rfl⟩
  · rintro ⟨steps,scanned,same⟩
    exact ⟨steps,scanned,by rw [← same]⟩

end Names

end LintTools.JsonPath
