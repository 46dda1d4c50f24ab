import LintTools.Proofs.Report.Printed

/-! Findings printed with brackets at the end of the line: `file:line:column: [level] message (code)`
and `file:line:  message  [code] [confidence]`. A message may hold brackets as long as each one that
opens behind a blank is closed in the message; then too many are closed behind it for a code that
starts there. -/
namespace LintTools.Report
open Text

def Closed (opening closing : Char) (cs : List Char) : Prop :=
  ∀ before c after, cs = before ++ c :: opening :: after → isBlank c = true → closing ∈ after

theorem closed_nil (opening closing : Char) : Closed opening closing [] := by
  intro before c after same
  simp at same

theorem closed_cons (opening closing c : Char) (cs : List Char) : Closed opening closing (c :: cs) ↔
    (isBlank c = true → cs.head? = some opening → closing ∈ cs.tail) ∧
      Closed opening closing cs := by
  constructor
  · intro closed
    constructor
    · intro blank opens
      obtain ⟨after,same⟩ := List.head?_eq_some_iff.mp opens
      rw [same]
      exact closed [] c after (by rw [same]; rfl) blank
    · intro before d after same
      exact closed (c :: before) d after (by rw [same]; rfl)
  · intro parts before d after same blank
    cases before with
    | nil =>
      obtain ⟨rfl,rfl⟩ := List.cons.inj same
      exact parts.1 blank rfl
    | cons e before => exact parts.2 before d after (List.cons.inj same).2 blank

instance decidableClosed (opening closing : Char) : (cs : List Char) →
    Decidable (Closed opening closing cs)
  | [] => isTrue (closed_nil opening closing)
  | c :: cs =>
    have := decidableClosed opening closing cs
    decidable_of_iff _ (closed_cons opening closing c cs).symm

theorem count_gap (mark : Char) (gap : List Char) (blank : Blank gap)
    (visible : isBlank mark = false) : gap.count mark = 0 := by
  apply List.count_eq_zero.mpr
  intro member
  rw [blank mark member] at visible
  contradiction

/-- Where a line goes on to an opening bracket from within a closed text, the text holds one that
closes as well: the blanks in front of the bracket end before the text does. -/
theorem closing_mem (opening closing : Char) (cs tail ending gap rest : List Char)
    (closed : Closed opening closing cs) (visible : ∀ c ∈ cs.getLast?, isBlank c = false)
    (suffix : tail <:+ cs) (filled : tail ≠ []) (spaced : gap ≠ []) (blank : Blank gap)
    (shape : tail ++ ending = gap ++ opening :: rest) : closing ∈ tail := by
  obtain ⟨front,same⟩ := suffix
  have notInGap (between : List Char) : gap ≠ tail ++ between := by
    intro longer
    have last := List.getLast_mem filled
    have seen : isBlank (tail.getLast filled) = false := by
      apply visible
      rw [← same,List.getLast?_append_of_ne_nil _ filled,List.getLast?_eq_some_getLast filled]
      exact rfl
    rw [blank _ (longer ▸ List.mem_append_left between last)] at seen
    contradiction
  rcases List.append_eq_append_iff.mp shape with longer | shorter
  · obtain ⟨between,longer,_⟩ := longer
    exact absurd longer (notInGap between)
  · obtain ⟨inside,held,onward⟩ := shorter
    cases inside with
    | nil =>
      rw [List.append_nil] at held
      exact absurd (held.symm.trans (List.append_nil tail).symm) (notInGap [])
    | cons c after =>
      obtain rfl := (List.cons.inj onward).1
      obtain ⟨start,last,ends⟩ : ∃ start last, gap = start ++ [last] :=
        ⟨_,_,(List.dropLast_append_getLast spaced).symm⟩
      have inAfter : closing ∈ after := by
        apply closed (front ++ start) last after
        · rw [← same,held,ends]
          simp
        · exact blank last (ends ▸ List.mem_append_right start List.mem_cons_self)
      rw [held]
      exact List.mem_append_right gap (List.mem_cons_of_mem opening inAfter)

theorem codeAtEnd?_shape (cs : List Char) (end? : Option (List Char)) (filled : cs ≠ [])
    (found : codeAtEnd? cs = some end?) : ∃ gap code, cs = gap ++ '(' :: (code ++ [')']) ∧
      gap ≠ [] ∧ Blank gap ∧ ')' ∉ code := by
  rw [codeAtEnd?,if_neg (by simpa using filled)] at found
  simp only [Option.bind_eq_bind,Option.bind_eq_some_iff] at found
  obtain ⟨behind,spaced,inner,opened,⟨code,left⟩,taken,found⟩ := found
  obtain ⟨gap,rfl,wide,blank,_⟩ := (blanks?_iff cs behind).mp spaced
  obtain rfl := (after?_iff ['('] behind inner).mp opened
  obtain ⟨rfl,_,apart,_⟩ := (run?_iff _ inner code left).mp taken
  dsimp only at found
  split at found
  · rename_i ending
    exact ⟨gap,code,by rw [ending]; rfl,wide,blank,not_mem_of_run ')' code apart⟩
  · cases found

theorem confidenceAtEnd?_shape (cs found : List Char) (accepted : confidenceAtEnd? cs = some found) :
    ∃ gap code between digits,
      cs = gap ++ '[' :: (code ++ ']' :: (between ++ '[' :: (digits ++ [']']))) ∧ gap ≠ [] ∧
        Blank gap ∧ ']' ∉ code ∧ Blank between ∧ ']' ∉ digits := by
  rw [confidenceAtEnd?] at accepted
  simp only [Option.bind_eq_bind,Option.bind_eq_some_iff] at accepted
  obtain ⟨behind,spaced,inner,opened,⟨code,left⟩,taken,accepted⟩ := accepted
  obtain ⟨closed,shut,next,apart,number,reopened,⟨digits,last⟩,counted,accepted⟩ := accepted
  obtain ⟨gap,rfl,filled,blank,_⟩ := (blanks?_iff cs behind).mp spaced
  obtain rfl := (after?_iff ['['] behind inner).mp opened
  obtain ⟨rfl,_,plain,_⟩ := (run?_iff _ inner code left).mp taken
  obtain rfl := (after?_iff [']'] left closed).mp shut
  obtain ⟨between,rfl,_,blankToo,_⟩ := (blanks?_iff closed next).mp apart
  obtain rfl := (after?_iff ['['] next number).mp reopened
  obtain ⟨rfl,_,decimal,_⟩ := (run?_iff _ number digits last).mp counted
  dsimp only at accepted
  split at accepted
  · rename_i ending
    have plainToo : ']' ∉ digits := fun member => absurd (decimal ']' member) (by decide)
    exact ⟨gap,code,between,digits,by rw [ending]; rfl,filled,blank,not_mem_of_run ']' code plain,
      blankToo,plainToo⟩
  · cases accepted

def mark (c : Char) (visible : isBlank c = false) (inLine : c ≠ '\n') : Phrase where
  text := String.singleton c
  filled := by simp
  trimmed := by simpa using trimmed_singleton c visible
  line := by simpa using inLine.symm

namespace Yamllint

structure Finding where
  file : Phrase
  line : Decimal
  column : Decimal
  level : String
  message : Phrase
  code : Phrase
  apart : ':' ∉ file.text.toList
  graded : level.toList ≠ []
  single : '\n' ∉ level.toList
  bounded : ']' ∉ level.toList
  coded : ')' ∉ code.text.toList
  closed : Closed '(' ')' message.text.toList

namespace Finding

def written (finding : Finding) : String :=
  finding.file.text ++ (":" ++ finding.line.text ++ ":" ++ finding.column.text ++ ": [" ++
    finding.level ++ "] " ++ finding.message.text ++ " (" ++ finding.code.text) ++ ")"

def severity (finding : Finding) : Severity :=
  if lower finding.level.toList = "error".toList then .error else .warning

def diagnostic (finding : Finding) : Diagnostic where
  file := some finding.file.text
  line := some finding.line.value
  column := some finding.column.value
  severity := some finding.severity.label
  code := some finding.code.text
  tool := some "yamllint"
  message := finding.message.text

def ending (finding : Finding) : List Char := ' ' :: '(' :: (finding.code.text.toList ++ [')'])

theorem written_toList (finding : Finding) : finding.written.toList =
    finding.file.text.toList ++ ':' :: (finding.line.digits ++ ':' :: (finding.column.digits ++
      ':' :: ' ' :: '[' :: (finding.level.toList ++ ']' :: ' ' ::
        (finding.message.text.toList ++ finding.ending)))) := by
  simp [written,ending,Decimal.text]

theorem codeAtEnd?_ending (finding : Finding) :
    codeAtEnd? finding.ending = some (some finding.code.text.toList) := by
  have code := run?_until ')' finding.code.text.toList [] finding.code.filled finding.coded
  rw [codeAtEnd?,ending,List.isEmpty_cons,if_neg Bool.false_ne_true,
    blanks?_mark '(' _ (by decide)]
  simp only [Option.bind_eq_bind,Option.bind_some,after?,if_true,code]

theorem codeAtEnd?_within (finding : Finding) (tail : List Char)
    (suffix : tail <:+ finding.message.text.toList) (filled : tail ≠ []) :
    codeAtEnd? (tail ++ finding.ending) = none := by
  cases accepted : codeAtEnd? (tail ++ finding.ending) with
  | none => rfl
  | some found =>
    obtain ⟨gap,code,shape,spaced,blank,plain⟩ := codeAtEnd?_shape _ found (by simp [filled]) accepted
    have inTail := closing_mem '(' ')' _ tail _ gap _ finding.closed finding.message.trimmed.2
      suffix filled spaced blank shape
    -- One bracket closes from here on, and another one in the message.
    have once : (tail ++ finding.ending).count ')' = 1 := by
      rw [shape]
      simp [count_gap ')' gap blank (by decide),List.count_eq_zero.mpr plain]
    have twice : (tail ++ finding.ending).count ')' = tail.count ')' + 1 := by
      simp [ending,List.count_eq_zero.mpr finding.coded]
    have more := List.count_pos_iff.mpr inTail
    omega

theorem place_within (finding : Finding) (tail rest : List Char)
    (suffix : tail <:+ finding.file.text.toList) (filled : tail ≠ []) :
    yamllintPlace? (tail ++ rest) = none := by
  cases tail with
  | nil => contradiction
  | cons c tail =>
    have other : ':' ≠ c := by
      intro same
      exact finding.apart (suffix.subset (same ▸ List.mem_cons_self))
    simp [yamllintPlace?,after?,other]

theorem place_read (finding : Finding) :
    yamllintPlace? (':' :: (finding.line.digits ++ ':' :: (finding.column.digits ++ ':' :: ' ' ::
      '[' :: (finding.level.toList ++ ']' :: ' ' ::
        (finding.message.text.toList ++ finding.ending))))) =
      some (finding.line.digits,finding.column.digits,finding.level.toList,
        finding.message.text.toList ++ finding.ending) := by
  have behind (rest : List Char) : blanks? (' ' :: (finding.message.text.toList ++ rest)) =
      some (finding.message.text.toList ++ rest) := by
    apply blanks?_space
    rw [List.head?_append_of_ne_nil _ finding.message.filled]
    exact finding.message.visible
  rw [yamllintPlace?]
  simp only [Option.bind_eq_bind,Option.bind_some,after?,if_true,
    Decimal.digits?_append _ ':' _ (by decide),blanks?_mark '[' _ (by decide),
    run?_until ']' _ _ finding.graded finding.bounded,behind]
  rfl

theorem message_read (finding : Finding) :
    firstCut? codeAtEnd? (finding.message.text.toList ++ finding.ending) =
      some (finding.message.text.toList,some finding.code.text.toList) :=
  firstCut?_append _ _ _ _ finding.codeAtEnd?_within finding.codeAtEnd?_ending

theorem read (finding : Finding) :
    yamllintLine? finding.written.toList = some finding.diagnostic := by
  have place : firstCut? yamllintPlace? finding.written.toList = some (finding.file.text.toList,
      finding.line.digits,finding.column.digits,finding.level.toList,
        finding.message.text.toList ++ finding.ending) := by
    rw [finding.written_toList]
    apply firstCut?_append
    · exact fun tail suffix filled => finding.place_within tail _ suffix filled
    · exact finding.place_read
  rw [yamllintLine?,place]
  simp only [Option.bind_eq_bind,Option.bind_some,finding.message_read,Phrase.part,
    Decimal.readSigned_digits]
  rfl

theorem legible (finding : Finding) : Legible finding.written := by
  apply Legible.between finding.file (mark ')' (by decide) (by decide))
  simp [finding.line.line,finding.column.line,finding.single,finding.message.line,
    finding.code.line]

theorem line?_written (finding : Finding) :
    TextReport.yamllint.line? finding.written.toList = some finding.diagnostic := by
  rw [line?_form]
  · exact finding.read
  · intro start member
    exact absurd member List.not_mem_nil

end Finding
end Yamllint

namespace Cpplint

structure Finding where
  file : Phrase
  line : Decimal
  message : Phrase
  code : Phrase
  confidence : List Char
  apart : ':' ∉ file.text.toList
  unled : ∀ start ∈ TextReport.cpplint.summaries, ¬start.toList <+: file.text.toList
  coded : ']' ∉ code.text.toList
  rated : confidence ≠ []
  ascii : ∀ c ∈ confidence, c.isDigit = true
  closed : Closed '[' ']' message.text.toList

namespace Finding

def written (finding : Finding) : String :=
  finding.file.text ++ (":" ++ finding.line.text ++ ":  " ++ finding.message.text ++ "  [" ++
    finding.code.text ++ "] [" ++ String.ofList finding.confidence) ++ "]"

def diagnostic (finding : Finding) : Diagnostic where
  file := some finding.file.text
  line := some finding.line.value
  severity := some Severity.warning.label
  code := some finding.code.text
  tool := some "cpplint"
  message := finding.message.text

def ending (finding : Finding) : List Char :=
  ' ' :: ' ' :: '[' :: (finding.code.text.toList ++ ']' :: ' ' :: '[' ::
    (finding.confidence ++ [']']))

theorem written_toList (finding : Finding) : finding.written.toList =
    finding.file.text.toList ++ ':' :: (finding.line.digits ++ ':' :: ' ' :: ' ' ::
      (finding.message.text.toList ++ finding.ending)) := by
  simp [written,ending,Decimal.text]

theorem confidenceAtEnd?_ending (finding : Finding) :
    confidenceAtEnd? finding.ending = some finding.code.text.toList := by
  have wideGap (rest : List Char) : blanks? (' ' :: ' ' :: '[' :: rest) = some ('[' :: rest) :=
    blanks?_append [' ',' '] _ (by simp) (by simp [Blank]; decide) (by simp; decide)
  have digits : digits? (finding.confidence ++ [']']) = some (finding.confidence,[']']) :=
    digits?_append _ ']' [] finding.rated finding.ascii (by decide)
  rw [confidenceAtEnd?,ending,wideGap]
  simp only [Option.bind_eq_bind,Option.bind_some,after?,if_true,
    blanks?_mark '[' _ (by decide),run?_until ']' _ _ finding.code.filled finding.coded,digits]

theorem confidenceAtEnd?_within (finding : Finding) (tail : List Char)
    (suffix : tail <:+ finding.message.text.toList) (filled : tail ≠ []) :
    confidenceAtEnd? (tail ++ finding.ending) = none := by
  cases accepted : confidenceAtEnd? (tail ++ finding.ending) with
  | none => rfl
  | some found =>
    obtain ⟨gap,code,between,digits,shape,spaced,blank,plain,blankToo,plainToo⟩ :=
      confidenceAtEnd?_shape _ found accepted
    have inTail := closing_mem '[' ']' _ tail _ gap _ finding.closed finding.message.trimmed.2
      suffix filled spaced blank shape
    -- Two brackets close from here on, and another one in the message.
    have confidence : ']' ∉ finding.confidence :=
      fun member => absurd (finding.ascii ']' member) (by decide)
    have twice : (tail ++ finding.ending).count ']' = 2 := by
      rw [shape]
      simp [count_gap ']' gap blank (by decide),count_gap ']' between blankToo (by decide),
        List.count_eq_zero.mpr plain,List.count_eq_zero.mpr plainToo]
    have thrice : (tail ++ finding.ending).count ']' = tail.count ']' + 2 := by
      simp [ending,List.count_eq_zero.mpr finding.coded,List.count_eq_zero.mpr confidence]
    have more := List.count_pos_iff.mpr inTail
    omega

theorem message_read (finding : Finding) :
    messageAndCode? (finding.message.text.toList ++ finding.ending) =
      some (finding.message.text.toList,finding.code.text.toList) := by
  cases shape : finding.message.text.toList with
  | nil => exact absurd shape finding.message.filled
  | cons c rest =>
    have cut := firstCut?_append confidenceAtEnd? rest finding.ending finding.code.text.toList
      (fun tail suffix filled => finding.confidenceAtEnd?_within tail
        (shape ▸ suffix.trans (List.suffix_cons c rest)) filled) finding.confidenceAtEnd?_ending
    rw [List.cons_append,messageAndCode?,cut]
    rfl

theorem read (finding : Finding) :
    cpplintLine? finding.written.toList = some finding.diagnostic := by
  have blanks : ((' ' :: ' ' :: (finding.message.text.toList ++ finding.ending)).takeWhile
      isBlank).length = 2 := by
    cases shape : finding.message.text.toList with
    | nil => exact absurd shape finding.message.filled
    | cons c rest =>
      have visible : isBlank c = false := finding.message.visible c (by rw [shape]; rfl)
      have space : isBlank ' ' = true := rfl
      simp [List.takeWhile,space,visible]
  rw [cpplintLine?,finding.written_toList,finding.file.run?_isNotColon finding.apart]
  simp only [Option.bind_eq_bind,Option.bind_some,after?,if_true,
    Decimal.digits?_append _ ':' _ (by decide),blanks,List.range_succ_eq_map,List.findSome?_cons,
    Nat.sub_zero,List.drop_succ_cons,List.drop_zero,finding.message_read,Phrase.part,
    Decimal.readSigned_digits]
  rfl

theorem legible (finding : Finding) : Legible finding.written := by
  apply Legible.between finding.file (mark ']' (by decide) (by decide))
  have confidence : '\n' ∉ finding.confidence :=
    fun member => absurd (finding.ascii '\n' member) (by decide)
  simp [finding.line.line,finding.message.line,finding.code.line,confidence]

theorem line?_written (finding : Finding) :
    TextReport.cpplint.line? finding.written.toList = some finding.diagnostic := by
  have plain : ∀ start ∈ TextReport.cpplint.summaries, ':' ∉ start.toList := by decide
  rw [finding.written_toList,line?_unled _ _ _ plain finding.unled,← finding.written_toList]
  exact finding.read

end Finding
end Cpplint

/-- Findings of the two tools are read back as they were printed, each from a line of its own. -/
theorem bracketed_read_back :
    (∀ findings : List Yamllint.Finding,
      ReadsBack .yamllint (findings.map (·.written)) (findings.map (·.diagnostic))) ∧
    ∀ findings : List Cpplint.Finding,
      ReadsBack .cpplint (findings.map (·.written)) (findings.map (·.diagnostic)) := by
  constructor
  · apply readsBack_map .yamllint _ _ (by decide) Yamllint.Finding.legible
      Yamllint.Finding.line?_written
    exact fun finding => finding.message.text_ne_empty
  · apply readsBack_map .cpplint _ _ (by decide) Cpplint.Finding.legible
      Cpplint.Finding.line?_written
    exact fun finding => finding.message.text_ne_empty

def duplicateFinding : Yamllint.Finding where
  file := ⟨"a.yml",by decide,by decide,by decide⟩
  line := ⟨['8'],by decide,List.all_eq_true.mp rfl,by decide⟩
  column := ⟨['0','7'],by decide,List.all_eq_true.mp rfl,by decide⟩
  level := "ERROR"
  message := ⟨"b:1:2: [x] odd (key) (y) here",by decide,by decide,by decide⟩
  code := ⟨"dup (2",by decide,by decide,by decide⟩
  apart := by decide
  graded := by decide
  single := by decide
  bounded := by decide
  coded := by decide
  closed := by decide

def spacingFinding : Cpplint.Finding where
  file := ⟨"src/a b.cc",by decide,by decide,by decide⟩
  line := ⟨['0'],by decide,List.all_eq_true.mp rfl,by decide⟩
  message := ⟨"Missing space in x[0]  [y] [1] here",by decide,by decide,by decide⟩
  code := ⟨"whitespace/[operators",by decide,by decide,by decide⟩
  confidence := ['5']
  apart := by decide
  unled := by decide
  coded := by decide
  rated := by decide
  ascii := List.all_eq_true.mp rfl
  closed := by decide

theorem bracketedFindings_read :
    ReadsBack .yamllint ["a.yml:8:07: [ERROR] b:1:2: [x] odd (key) (y) here (dup (2)"]
      [{ file := some "a.yml"
         line := some 8
         column := some 7
         severity := some "error"
         code := some "dup (2"
         tool := some "yamllint"
         message := "b:1:2: [x] odd (key) (y) here" }] ∧
    ReadsBack .cpplint
      ["src/a b.cc:0:  Missing space in x[0]  [y] [1] here  [whitespace/[operators] [5]"]
      [{ file := some "src/a b.cc"
         line := some 0
         severity := some "warning"
         code := some "whitespace/[operators"
         tool := some "cpplint"
         message := "Missing space in x[0]  [y] [1] here" }] :=
  ⟨bracketed_read_back.1 [duplicateFinding],bracketed_read_back.2 [spacingFinding]⟩

/-- A bracket that the message leaves open takes the code with it. -/
example : ¬Closed '(' ')' "wrong (odd".toList ∧ firstCut? codeAtEnd? "wrong (odd (keys)".toList =
    some ("wrong".toList,some "odd (keys".toList) := by decide

end LintTools.Report
