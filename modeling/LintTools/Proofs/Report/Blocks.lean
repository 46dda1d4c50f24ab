import LintTools.Proofs.Report.Lines
import LintTools.Strategy
import Mathlib.Data.List.Forall2

/-! Reports in blocks. A block is a header line with the lines behind it, up to the next header, and
every block gives one diagnostic whatever stands around it. So a report that is cut in front of a
header is read as its two parts are; colours are no matter, as none of them goes over a line end. -/
namespace LintTools.Report.Tombi
open Text

def reportLines (output : String) : List (List Char) := filledLines (dropColours 0 output.toList)

def isHeader (line : List Char) : Bool := (header? line).isSome

def StartsBlock (output : String) : Prop :=
  ∀ line ∈ (reportLines output).head?, isHeader line = true

def extendAll (d : Diagnostic) (lines : List (List Char)) : Diagnostic :=
  lines.foldl (fun d line => extend line d) d

structure Block where
  header : List Char
  details : List (List Char)

namespace Block

def lines (block : Block) : List (List Char) := block.header :: block.details

def diagnostic? (block : Block) : Option Diagnostic :=
  (header? block.header).map (extendAll · block.details)

end Block

def untilHeader (lines : List (List Char)) : List (List Char) := lines.takeWhile (!isHeader ·)

def blocks : List (List Char) → List Block
  | [] => []
  | line :: lines =>
    if isHeader line then ⟨line,untilHeader lines⟩ :: blocks lines else blocks lines

/-! Colours in front of a line end. -/

theorem starts_append_line (c : Char) (other : '\n' ≠ c) (cs rest tail : List Char)
    (starts : cs ++ '\n' :: rest = c :: tail) : ∃ head, cs = c :: head ∧ tail = head ++ '\n' :: rest := by
  rcases List.append_eq_cons_iff.mp starts with ⟨_,same⟩ | same
  · exact absurd (List.cons.inj same).1 other
  · exact same

section Stop
variable (p : Char → Bool) (stop : p '\n' = false) (cs rest : List Char)
include stop

theorem takeWhile_append_line : (cs ++ '\n' :: rest).takeWhile p = cs.takeWhile p := by
  induction cs with
  | nil => exact List.takeWhile_cons_of_neg (by simp [stop])
  | cons c cs ih => rw [List.cons_append,List.takeWhile_cons,List.takeWhile_cons,ih]

theorem dropWhile_append_line :
    (cs ++ '\n' :: rest).dropWhile p = cs.dropWhile p ++ '\n' :: rest := by
  induction cs with
  | nil => exact List.dropWhile_cons_of_neg (by simp [stop])
  | cons c cs ih =>
    rw [List.cons_append,List.dropWhile_cons,List.dropWhile_cons,ih]
    split <;> rfl

end Stop

theorem colourLength?_append_line (cs rest : List Char) :
    colourLength? (cs ++ '\n' :: rest) = colourLength? cs := by
  fun_cases colourLength? cs with
  | case1 cs body others ended =>
    simp only [List.cons_append]
    rw [colourLength?,takeWhile_append_line _ (by decide),dropWhile_append_line _ (by decide),ended]
    rfl
  | case2 cs unended =>
    simp only [List.cons_append]
    rw [colourLength?,dropWhile_append_line _ (by decide)]
    split
    · rename_i starts
      obtain ⟨head,same,_⟩ := starts_append_line 'm' (by decide) _ _ _ starts
      exact (unended head same).elim
    · rfl
  | case3 cs plain =>
    rw [colourLength?]
    intro others starts
    obtain ⟨head,rfl,same⟩ := starts_append_line '\x1b' (by decide) cs rest _ starts
    obtain ⟨head,rfl,_⟩ := starts_append_line '[' (by decide) head rest _ same.symm
    exact plain head rfl

theorem colourLength_le (cs : List Char) : ∀ length ∈ colourLength? cs, length ≤ cs.length := by
  fun_cases colourLength? cs with
  | case1 cs body others ended =>
    rintro _ ⟨⟩
    have whole : body ++ 'm' :: others = cs := by
      rw [← ended]
      exact List.takeWhile_append_dropWhile
    rw [← whole]
    simp only [List.length_cons,List.length_append]
    omega
  | case2 cs unended => exact fun _ found => nomatch found
  | case3 cs plain => exact fun _ found => nomatch found

/-- Colours are taken out of the texts around a line end one by one. -/
theorem dropColours_append_line (skip : Nat) (cs rest : List Char) (inside : skip ≤ cs.length) :
    dropColours skip (cs ++ '\n' :: rest) = dropColours skip cs ++ '\n' :: dropColours 0 rest := by
  induction cs generalizing skip with
  | nil =>
    obtain rfl := Nat.le_zero.mp inside
    rfl
  | cons c cs ih =>
    cases skip with
    | succ skip => exact ih skip (Nat.le_of_succ_le_succ inside)
    | zero =>
      have seam := colourLength?_append_line (c :: cs) rest
      rw [List.cons_append] at seam ⊢
      rw [dropColours,dropColours,seam]
      cases found : colourLength? (c :: cs) with
      | none => exact congrArg (c :: ·) (ih 0 (Nat.zero_le _))
      | some length =>
        have bound := colourLength_le (c :: cs) length found
        rw [List.length_cons] at bound
        exact ih (length - 1) (by omega)

theorem reportLines_append (a b : String) :
    reportLines (a ++ "\n" ++ b) = reportLines a ++ reportLines b := by
  have shape : (a ++ "\n" ++ b).toList = a.toList ++ '\n' :: b.toList := by simp
  rw [reportLines,shape,dropColours_append_line 0 _ _ (Nat.zero_le _),filledLines_append]
  rfl

/-! Blocks one by one. -/

theorem isHeader_of_some (line : List Char) (opened : Diagnostic)
    (found : header? line = some opened) : isHeader line = true := by
  rw [isHeader,found]
  rfl

theorem isHeader_of_none (line : List Char) (found : header? line = none) :
    isHeader line = false := by
  rw [isHeader,found]
  rfl

theorem Block.diagnostic?_opened (line : List Char) (details : List (List Char))
    (opened : Diagnostic) (found : header? line = some opened) :
    Block.diagnostic? ⟨line,details⟩ = some (extendAll opened details) := by
  rw [Block.diagnostic?,found]
  rfl

theorem untilHeader_header (line : List Char) (lines : List (List Char))
    (header : isHeader line = true) : untilHeader (line :: lines) = [] := by
  simp [untilHeader,header]

theorem untilHeader_plain (line : List Char) (lines : List (List Char))
    (plain : isHeader line = false) : untilHeader (line :: lines) = line :: untilHeader lines := by
  simp [untilHeader,plain]

/-- An open diagnostic is extended up to the next header, and from there on the blocks are read. -/
theorem diagnosticsFrom_blocks (opened : Option Diagnostic) (lines : List (List Char)) :
    diagnosticsFrom opened lines = (opened.map (extendAll · (untilHeader lines))).toList ++
      (blocks lines).filterMap Block.diagnostic? := by
  induction lines generalizing opened with
  | nil => cases opened <;> rfl
  | cons line lines ih =>
    rw [diagnosticsFrom]
    cases found : header? line with
    | some next =>
      have header := isHeader_of_some line next found
      have first := Block.diagnostic?_opened line (untilHeader lines) next found
      rw [untilHeader_header line lines header,blocks,if_pos header,List.filterMap_cons_some first]
      dsimp only
      rw [ih]
      cases opened <;> rfl
    | none =>
      have plain := isHeader_of_none line found
      rw [untilHeader_plain line lines plain,blocks,plain]
      dsimp only
      rw [ih]
      cases opened <;> rfl

theorem diagnostics_blocks (output : String) : TextReport.tombi.diagnostics output =
    (blocks (reportLines output)).filterMap Block.diagnostic? :=
  diagnosticsFrom_blocks none (reportLines output)

theorem untilHeader_append (before after : List (List Char))
    (starts : ∀ line ∈ after.head?, isHeader line = true) :
    untilHeader (before ++ after) = untilHeader before := by
  induction before with
  | nil =>
    cases after with
    | nil => rfl
    | cons line lines => exact untilHeader_header line lines (starts line rfl)
  | cons line before ih =>
    rw [List.cons_append]
    cases header : isHeader line with
    | true => rw [untilHeader_header _ _ header,untilHeader_header _ _ header]
    | false => rw [untilHeader_plain _ _ header,untilHeader_plain _ _ header,ih]

theorem blocks_append (before after : List (List Char))
    (starts : ∀ line ∈ after.head?, isHeader line = true) :
    blocks (before ++ after) = blocks before ++ blocks after := by
  induction before with
  | nil => rfl
  | cons line before ih =>
    rw [List.cons_append,blocks,blocks,untilHeader_append before after starts,ih]
    split <;> rfl

theorem blocks_headers (lines : List (List Char)) :
    (blocks lines).map (·.header) = lines.filter isHeader := by
  induction lines with
  | nil => rfl
  | cons line lines ih =>
    rw [blocks,List.filter_cons]
    split
    · rw [List.map_cons,ih]
    · exact ih

/-- The blocks hold every line from the first header on. -/
theorem blocks_cover (lines : List (List Char)) :
    untilHeader lines ++ (blocks lines).flatMap Block.lines = lines := by
  induction lines with
  | nil => rfl
  | cons line lines ih =>
    rw [blocks]
    cases header : isHeader line with
    | true =>
      rw [untilHeader_header line lines header,if_pos rfl,List.flatMap_cons,List.nil_append]
      exact congrArg (line :: ·) ih
    | false =>
      rw [untilHeader_plain line lines header]
      exact congrArg (line :: ·) ih

theorem blocks_diagnosed (lines : List (List Char)) :
    List.Forall₂ (fun block d => block.diagnostic? = some d) (blocks lines)
      ((blocks lines).filterMap Block.diagnostic?) := by
  induction lines with
  | nil => exact .nil
  | cons line lines ih =>
    rw [blocks]
    split
    · rename_i header
      obtain ⟨opened,found⟩ := Option.isSome_iff_exists.mp header
      have first := Block.diagnostic?_opened line (untilHeader lines) opened found
      rw [List.filterMap_cons_some first]
      exact .cons first ih
    · exact ih

theorem parse_diagnostics (root : Path) (output : String) :
    OutputParser.parse (.text .tombi) root output = TextReport.tombi.diagnostics output := by
  refine List.filter_eq_self.mpr ?_
  intro d member
  simpa using (diagnosticsFrom_holds header_opened extend_opened none _ (by simp) d member).2

/-- A report is cut in front of a header without a difference, and gives one diagnostic for each of
its headers, in order, from the lines of its block alone. -/
theorem split_at_headers (root : Path) (output : String) :
    (∀ after, StartsBlock after → TextReport.tombi.diagnostics (output ++ "\n" ++ after) =
      TextReport.tombi.diagnostics output ++ TextReport.tombi.diagnostics after) ∧
    (TextReport.tombi.diagnostics output = [] ↔
      ∀ line ∈ reportLines output, isHeader line = false) ∧
    (blocks (reportLines output)).map (·.header) = (reportLines output).filter isHeader ∧
    untilHeader (reportLines output) ++ (blocks (reportLines output)).flatMap Block.lines =
      reportLines output ∧
    List.Forall₂ (fun block d => block.diagnostic? = some d) (blocks (reportLines output))
      (TextReport.tombi.diagnostics output) ∧
    OutputParser.parse (.text .tombi) root output = TextReport.tombi.diagnostics output := by
  have each := blocks_diagnosed (reportLines output)
  rw [← diagnostics_blocks] at each
  have headers := blocks_headers (reportLines output)
  refine ⟨?_,?_,headers,blocks_cover _,each,parse_diagnostics root output⟩
  · intro after starts
    rw [diagnostics_blocks,reportLines_append,blocks_append _ _ starts,List.filterMap_append,
      diagnostics_blocks,diagnostics_blocks]
  · have sizes := congrArg List.length headers
    rw [List.length_map,each.length_eq] at sizes
    rw [← List.length_eq_zero_iff,sizes,List.length_eq_zero_iff,List.filter_eq_nil_iff]
    simp

def invalidKey : String :=
  "\x1b[31mError\x1b[0m: invalid key\n    at pyproject.toml:3:5\n    expected a table\r"

def deprecatedKey : String := " \n\x1b[1m\x1b[0m\n\x1b[33mWarning\x1b[0m: deprecated"

theorem invalidKey_split : StartsBlock deprecatedKey ∧
    TextReport.tombi.diagnostics (invalidKey ++ "\n" ++ deprecatedKey) =
      TextReport.tombi.diagnostics invalidKey ++ TextReport.tombi.diagnostics deprecatedKey := by
  have starts : StartsBlock deprecatedKey := by
    rw [StartsBlock]
    decide +kernel
  exact ⟨starts,(split_at_headers ⟨"/"⟩ invalidKey).1 deprecatedKey starts⟩

end LintTools.Report.Tombi
