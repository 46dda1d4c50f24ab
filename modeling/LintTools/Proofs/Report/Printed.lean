import LintTools.Proofs.Report.Lines
import LintTools.Proofs.Report.Parts
import LintTools.Proofs.Text.Numeral
import LintTools.Strategy

/-! Findings as tools print them, one on a line. A report is read back when its lines are read one
by one, as long as none of them is blank, has blanks at its ends or goes over a line end. -/
namespace LintTools.Report
open Text

structure Phrase where
  text : String
  filled : text.toList ≠ []
  trimmed : Trimmed text.toList
  line : '\n' ∉ text.toList

structure Decimal where
  digits : List Char
  filled : digits ≠ []
  ascii : ∀ c ∈ digits, c.isDigit = true
  signed : isSigned (Nat.ofDigitChars 10 digits 0) = true

namespace Decimal

def text (number : Decimal) : String := String.ofList number.digits

def value (number : Decimal) : Int := Nat.ofDigitChars 10 number.digits 0

theorem readSigned_digits (number : Decimal) : readSigned number.digits = some number.value := by
  have natural : readNatural number.digits = some (Nat.ofDigitChars 10 number.digits 0) := by
    rw [readNatural,if_neg (by simpa using number.filled),digitsFrom?_digits 0 _ number.ascii]
  rw [Text.readSigned_digits _ number.ascii,natural]
  exact (Option.filter_some.trans (if_pos number.signed))

theorem digits?_append (number : Decimal) (c : Char) (rest : List Char)
    (stop : isDecimalDigit c = false) :
    digits? (number.digits ++ c :: rest) = some (number.digits,c :: rest) :=
  Report.digits?_append _ c rest number.filled number.ascii stop

theorem line (number : Decimal) : '\n' ∉ number.text.toList := by
  rw [text,String.toList_ofList]
  intro member
  exact absurd (number.ascii '\n' member) (by decide)

end Decimal

namespace Phrase

theorem visible (phrase : Phrase) : ∀ c ∈ phrase.text.toList.head?, isBlank c = false :=
  phrase.trimmed.1

theorem text_ne_empty (phrase : Phrase) : phrase.text ≠ "" :=
  mt String.toList_eq_nil_iff.mpr phrase.filled

theorem part (phrase : Phrase) : part? phrase.text.toList = some phrase.text := by
  rw [part?_trimmed _ phrase.trimmed phrase.filled,String.ofList_toList]

theorem rest (phrase : Phrase) : rest? phrase.text.toList = some phrase.text.toList := by
  rw [rest?,if_neg (by simpa using phrase.filled)]

theorem dropBlank_space (phrase : Phrase) :
    dropBlank (' ' :: phrase.text.toList) = phrase.text.toList :=
  Report.dropBlank_space _ phrase.visible

theorem blanks?_space (phrase : Phrase) :
    blanks? (' ' :: phrase.text.toList) = some phrase.text.toList :=
  Report.blanks?_space _ phrase.visible

theorem run?_isNotColon (phrase : Phrase) (apart : ':' ∉ phrase.text.toList) (rest : List Char) :
    run? isNotColon (phrase.text.toList ++ ':' :: rest) = some (phrase.text.toList,':' :: rest) :=
  run?_until ':' _ rest phrase.filled apart

end Phrase

structure Legible (line : String) : Prop where
  filled : line.toList ≠ []
  trimmed : Trimmed line.toList
  single : '\n' ∉ line.toList

theorem Legible.filledLines {line : String} (legible : Legible line) :
    Text.filledLines line.toList = [line.toList] := by
  have same := (strip_eq_self_iff _).mpr legible.trimmed
  rw [filledLines_line _ legible.single,same,if_neg legible.filled]

/-- A line with phrases at both ends can be read if what stands between them goes over no line
end. -/
theorem Legible.between (first last : Phrase) (middle : String) (single : '\n' ∉ middle.toList) :
    Legible (first.text ++ middle ++ last.text) := by
  have shape : (first.text ++ middle ++ last.text).toList =
      first.text.toList ++ (middle.toList ++ last.text.toList) := by
    rw [String.toList_append,String.toList_append,List.append_assoc]
  constructor
  · rw [shape]
    exact List.append_ne_nil_of_left_ne_nil first.filled _
  · rw [shape]
    exact first.trimmed.between middle.toList last.trimmed first.filled last.filled
  · rw [shape]
    simp only [List.mem_append,not_or]
    exact ⟨first.line,single,last.line⟩

/-- A text that holds a mark at its end at most is a prefix already of what ends with the mark. -/
theorem prefix_through (mark : Char) (start before rest : List Char) (plain : mark ∉ start.dropLast)
    (starts : start <+: before ++ mark :: rest) : start <+: before ++ [mark] := by
  have whole : before ++ [mark] <+: before ++ mark :: rest := ⟨rest,by simp⟩
  rcases Nat.lt_or_ge (before ++ [mark]).length start.length with longer | shorter
  · have inside : before ++ [mark] <+: start.dropLast := by
      apply List.prefix_of_prefix_length_le whole ((List.dropLast_prefix start).trans starts)
      rw [List.length_dropLast]
      omega
    exact absurd (inside.subset (by simp)) plain
  · exact List.prefix_of_prefix_length_le starts whole shorter

/-- Where a file ends in front of a colon, a summary that has none can only begin in the file. -/
theorem prefix_file (start file rest : List Char) (plain : ':' ∉ start)
    (starts : start <+: file ++ ':' :: rest) : start <+: file := by
  have plainInit : ':' ∉ start.dropLast := fun member => plain (List.dropLast_subset start member)
  have within := prefix_through ':' start file rest plainInit starts
  rcases List.prefix_concat_iff.mp within with same | shorter
  · exact absurd (by simp [same]) plain
  · exact shorter

theorem line?_form (report : TextReport) (line : List Char)
    (unled : ∀ start ∈ report.summaries, ¬start.toList <+: line) :
    report.line? line = report.form? line := by
  have plain : report.isSummary line = false := by
    rw [TextReport.isSummary,List.any_eq_false]
    intro start member
    rw [startsWith_iff]
    exact unled start member
  rw [TextReport.line?,plain]
  rfl

theorem line?_unled (report : TextReport) (file rest : List Char)
    (plain : ∀ start ∈ report.summaries, ':' ∉ start.toList)
    (unled : ∀ start ∈ report.summaries, ¬start.toList <+: file) :
    report.line? (file ++ ':' :: rest) = report.form? (file ++ ':' :: rest) := by
  apply line?_form
  intro start member starts
  exact unled start member (prefix_file _ file rest (plain start member) starts)

def page (lines : List String) (ends : Nat) : String :=
  Text.join "\n" lines ++ String.ofList (List.replicate ends '\n')

theorem filledLines_join (lines : List String) (legible : ∀ line ∈ lines, Legible line) :
    Text.filledLines (Text.join "\n" lines).toList = lines.map String.toList := by
  rw [Text.join,String.toList_ofList]
  induction lines with
  | nil => rfl
  | cons line lines ih =>
    have first := (legible line List.mem_cons_self).filledLines
    have others := ih fun other member => legible other (List.mem_cons_of_mem line member)
    cases lines with
    | nil => simpa using first
    | cons next lines =>
      have seam := filledLines_append line.toList
        ("\n".toList.intercalate ((next :: lines).map String.toList))
      rw [first,others] at seam
      rw [List.map_cons,List.map_cons,List.intercalate_cons_cons,List.append_assoc]
      exact seam

theorem filledLines_page (lines : List String) (ends : Nat)
    (legible : ∀ line ∈ lines, Legible line) :
    Text.filledLines (page lines ends).toList = lines.map String.toList := by
  have gap : Blank (List.replicate ends '\n') := by
    intro c member
    rw [List.eq_of_mem_replicate member]
    decide
  rw [page,String.toList_append,String.toList_ofList,filledLines_append_blank _ _ gap,
    filledLines_join lines legible]

def ReadsBack (report : TextReport) (lines : List String) (found : List Diagnostic) : Prop :=
  ∀ (root : Path) (ends : Nat), report.diagnostics (page lines ends) = found ∧
    OutputParser.parse (.text report) root (page lines ends) = found

/-- Findings are read back when each of them is, on a line of its own. -/
theorem readsBack_map {α : Type} (report : TextReport) (written : α → String)
    (diagnostic : α → Diagnostic) (byLines : report ≠ .tombi)
    (legible : ∀ finding, Legible (written finding))
    (read : ∀ finding, report.line? (written finding).toList = some (diagnostic finding))
    (told : ∀ finding, (diagnostic finding).message ≠ "") (findings : List α) :
    ReadsBack report (findings.map written) (findings.map diagnostic) := by
  intro root ends
  have lines : Text.filledLines (page (findings.map written) ends).toList =
      findings.map fun finding => (written finding).toList := by
    rw [filledLines_page,List.map_map]
    · rfl
    · intro line member
      obtain ⟨finding,_,rfl⟩ := List.mem_map.mp member
      exact legible finding
  have found : report.diagnostics (page (findings.map written) ends) =
      findings.map diagnostic := by
    rw [TextReport.diagnostics.eq_def]
    split
    · contradiction
    · rw [lines,List.filterMap_map,← List.filterMap_eq_map]
      apply List.filterMap_congr
      intro finding _
      exact read finding
  have kept : (findings.map diagnostic).filter (!·.message.isEmpty) = findings.map diagnostic := by
    rw [List.filter_eq_self]
    intro d member
    obtain ⟨finding,_,rfl⟩ := List.mem_map.mp member
    simpa using told finding
  refine ⟨found,?_⟩
  rw [OutputParser.parse,OutputParser.findings,found,kept]

end LintTools.Report
