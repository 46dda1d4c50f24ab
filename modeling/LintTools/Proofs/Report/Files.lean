import LintTools.Proofs.Path.Remainder
import LintTools.Proofs.Report.Lines
import LintTools.Strategy
import Mathlib

/-! Files of reported diagnostics. Text reports name a file or none. JSON reports take it from texts
that are not empty, but some cut it below the root, where nothing is left of the root itself, and
one takes the text as it stands. -/
namespace LintTools

namespace TextReport
open Report LintTools.Text

theorem part_filled (cs : List Char) : part? cs ≠ some "" := by
  rw [part?]
  split
  · simp
  · rename_i filled
    simpa using filled

/-- A file is a part of the line that is not blank. -/
theorem form_file (report : TextReport) (line : List Char) :
    ∀ d ∈ report.form? line, ∃ file, d.file = part? file := by
  cases report with
  | luacheck =>
    repeat refine bind_gives fun _ => ?_
    dsimp only
    -- The test on the letter is one more reading, with the same record behind it.
    split
    all_goals
      repeat refine bind_gives fun _ => ?_
      exact pure_gives ⟨_,rfl⟩
  | tombi =>
    repeat refine bind_gives fun _ => ?_
    exact pure_gives ⟨[],rfl⟩
  | tsc | lualint | yamllint | dotenvLinter | cpplint =>
    repeat refine bind_gives fun _ => ?_
    exact pure_gives ⟨_,rfl⟩

theorem diagnostics_file (report : TextReport) (output : String) :
    ∀ d ∈ report.diagnostics output, ∃ file, d.file = part? file := by
  refine diagnostics_holds report (form_file report) (fun _ line d held => ?_) output
  rw [Tombi.extend]
  split
  · exact ⟨_,rfl⟩
  · exact held

theorem diagnostics_file_filled (report : TextReport) (output : String) (d : Diagnostic)
    (member : d ∈ report.diagnostics output) : d.file ≠ some "" := by
  obtain ⟨file,same⟩ := report.diagnostics_file output d member
  rw [same]
  exact part_filled file

end TextReport

namespace JsonReport
open Report

theorem text_ne_empty (item : Json) (names : List String) : text? item names ≠ some "" :=
  fun found => text_filled item names "" found rfl

/-- A path that is cut below the root is left empty just where it is the root. -/
theorem reportedPath_empty (root : Path) (path : Option String) :
    reportedPath root path = some "" ↔
      ∃ text, path = some text ∧ text ≠ "" ∧ Path.components ⟨text⟩ = root.components := by
  cases path with
  | none => simp [reportedPath]
  | some text =>
    by_cases empty : text = ""
    · subst empty
      simp [reportedPath]
    · have kept : (some text).filter (!·.isEmpty) = some text := by simp [empty]
      have cut := Path.below?_empty ⟨text⟩ root empty
      rw [reportedPath,kept,Option.map_some]
      cases found : Path.below? ⟨text⟩ root with
      | none => simpa [found,empty] using cut
      | some part => simpa [found,empty] using cut

def rootedPath? (report : JsonReport) (record : Json) : Option String :=
  match report with
  | ruff => text? record ["filename","file"]
  | pylint => text? record ["path","filename"]
  | pyright => text? record ["file","path"]
  | mypy => text? record ["path","file"]
  | selene => (record.get? "primary_label").bind fun primary => text? primary ["filename"]
  | _ => none

def objectFile? (record : Json) : Option String :=
  ((below? record ["Object","Metadata","FilePath"]).or
    (below? record ["Object","Metadata","filePath"])).bind (·.text?)

/-- Records whose diagnostics have an empty file: the root itself is reported, or the file is
given as an empty text where it is taken as it stands. -/
inductive Unplaced (root : Path) (record : Json) : JsonReport → Prop
  | atRoot (report : JsonReport) (text : String) (given : report.rootedPath? record = some text)
      (same : Path.components ⟨text⟩ = root.components) : Unplaced root record report
  | blank (given : objectFile? record = some "") : Unplaced root record kubeLinter

theorem rootedPath_filled (report : JsonReport) (record : Json) (text : String)
    (given : report.rootedPath? record = some text) : text ≠ "" := by
  cases report with
  | ruff | pylint | pyright | mypy => exact text_filled record _ text given
  | selene =>
    obtain ⟨primary,_,found⟩ := Option.bind_eq_some_iff.mp given
    exact text_filled primary _ text found
  | _ => contradiction

theorem cut_unplaced (report : JsonReport) (root : Path) (record : Json)
    (other : report ≠ kubeLinter) :
    reportedPath root (report.rootedPath? record) = some "" ↔ report.Unplaced root record := by
  rw [reportedPath_empty]
  constructor
  · rintro ⟨text,given,_,same⟩
    exact .atRoot report text given same
  · intro unplaced
    cases unplaced with
    | atRoot _ text given same => exact ⟨text,given,report.rootedPath_filled record text given,same⟩
    | blank => exact absurd rfl other

theorem filled_placed (report : JsonReport) (root : Path) (record : Json) (file : Option String)
    (other : report ≠ kubeLinter) (uncut : report.rootedPath? record = none)
    (filled : file ≠ some "") : file = some "" ↔ report.Unplaced root record := by
  rw [← cut_unplaced report root record other,uncut]
  simp [filled,reportedPath]

/-- A diagnostic has an empty file exactly where its record is unplaced. -/
theorem recordDiagnostics_file (report : JsonReport) (root : Path) (record : Json) (d : Diagnostic)
    (member : d ∈ report.recordDiagnostics root record) :
    d.file = some "" ↔ report.Unplaced root record := by
  have cut := cut_unplaced report root record
  have whole := filled_placed report root record
  cases report with
  | ruff | pylint | pyright | mypy =>
    obtain rfl := mem_ofObject _ record d member
    exact cut (by decide)
  | selene =>
    rw [recordDiagnostics] at member
    split at member
    · obtain rfl := List.mem_singleton.mp member
      exact cut (by decide)
    · simp at member
  | eslint | stylelint | sqlfluff | dockerfilelint =>
    obtain ⟨item,_,rfl⟩ := List.mem_map.mp member
    exact whole _ (by decide) rfl (text_ne_empty record _)
  | actionlint | hadolint | bandit =>
    obtain rfl := List.mem_singleton.mp member
    exact whole _ (by decide) rfl (text_ne_empty record _)
  | golangciLint =>
    obtain rfl := mem_ofObject _ record d member
    refine whole _ (by decide) rfl fun empty => ?_
    rcases Option.or_eq_some_iff.mp empty with first | ⟨_,second⟩
    · exact text_ne_empty _ _ first
    · exact text_ne_empty record _ second
  | cargoClippy =>
    obtain ⟨item,_,rfl⟩ := List.mem_map.mp member
    refine whole _ (by decide) rfl fun empty => ?_
    obtain ⟨span,_,found⟩ := Option.bind_eq_some_iff.mp empty
    exact text_ne_empty span _ found
  | kubeLinter =>
    obtain rfl := List.mem_singleton.mp member
    constructor
    · exact .blank
    · intro unplaced
      cases unplaced with
      | atRoot _ _ given => contradiction
      | blank given => exact given

end JsonReport

namespace OutputParser

/-- No text report gives an empty file. A JSON report gives none exactly when nothing is said about
its unplaced records. -/
theorem files_filled_iff (root : Path) (output : String) :
    (∀ report, ∀ d ∈ parse (.text report) root output, d.file ≠ some "") ∧
    ∀ report, (∀ d ∈ parse (.json report) root output, d.file ≠ some "") ↔
      ∀ record ∈ report.records (Payload.load .document output.toList),
        report.Unplaced root record →
          ∀ d ∈ report.recordDiagnostics root record, d.message = "" := by
  constructor
  · intro report d member
    exact report.diagnostics_file_filled output d (List.mem_filter.mp member).1
  · intro report
    constructor
    · intro filled record inside unplaced d member
      by_contra said
      have found : d ∈ report.diagnostics root (Payload.load .document output.toList) :=
        List.mem_flatMap.mpr ⟨record,inside,member⟩
      have returned : d ∈ parse (.json report) root output :=
        List.mem_filter.mpr ⟨found,by simpa using said⟩
      exact filled d returned ((report.recordDiagnostics_file root record d member).mpr unplaced)
    · intro unsaid d returned empty
      obtain ⟨found,said⟩ := List.mem_filter.mp returned
      obtain ⟨record,inside,member⟩ := List.mem_flatMap.mp found
      have unplaced := (report.recordDiagnostics_file root record d member).mp empty
      simp [unsaid record inside unplaced d member] at said

def spacedFile : String := "a.lua :3: *** unused"

def crookedFile : String := "[\x7b\"file\":\"/repo//./a.py\",\"message\":\"bad\"\x7d]"

theorem crookedFile_filled :
    (∃ d ∈ parse (.text .lualint) ⟨"/repo"⟩ spacedFile,
      d.file = some "a.lua" ∧ d.file ≠ some "") ∧
    parse (.json .mypy) ⟨"/repo"⟩ crookedFile =
      [{ file := some "a.py"
         severity := some "error"
         tool := some "mypy"
         message := "bad" }] ∧
    ∀ d ∈ parse (.json .mypy) ⟨"/repo"⟩ crookedFile, d.file ≠ some "" := by
  have spaced : { file := some "a.lua"
                  line := some 3
                  severity := some "warning"
                  tool := some "lualint"
                  message := "unused" } ∈ parse (.text .lualint) ⟨"/repo"⟩ spacedFile := by
    decide +kernel
  have payload : Payload.load .document crookedFile.toList =
      .arr [.obj [("file",.str "/repo//./a.py"),("message",.str "bad")]] := by cbv
  have filled := (files_filled_iff ⟨"/repo"⟩ crookedFile).2 .mypy
  rw [payload] at filled
  refine ⟨⟨_,spaced,rfl,(files_filled_iff ⟨"/repo"⟩ spacedFile).1 .lualint _ spaced⟩,?_,
    filled.mpr ?_⟩
  · rw [parse,findings,payload]
    decide +kernel
  · intro record member unplaced
    obtain rfl := List.mem_singleton.mp member
    cases unplaced with
    | atRoot _ text given same =>
      obtain rfl := Option.some.inj given
      exact absurd same (by decide +kernel)

def blankFile : String :=
  "\x7b\"Reports\":[\x7b\"Check\":\"no-read-only-root-fs\",\"Diagnostic\":\x7b\"Message\":" ++
  "\"writable\"\x7d,\"Object\":\x7b\"Metadata\":\x7b\"FilePath\":\"\"\x7d\x7d\x7d]\x7d"

def rootFile : String := "[\x7b\"filename\":\"/repo/.\",\"message\":\"bad\"\x7d]"

/-- An empty path is handed on, and a path that is not empty is cut to nothing. -/
theorem empty_files :
    parse (.json .kubeLinter) ⟨"/repo"⟩ blankFile =
      [{ file := some ""
         severity := some "error"
         code := some "no-read-only-root-fs"
         tool := some "kube-linter"
         message := "writable" }] ∧
    parse (.json .ruff) ⟨"/repo"⟩ rootFile =
      [{ file := some ""
         severity := some "warning"
         tool := some "ruff"
         message := "bad" }] := by
  constructor <;> cbv

end OutputParser

end LintTools
