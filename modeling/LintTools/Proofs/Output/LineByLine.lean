import LintTools.Proofs.Diagnostic.Payload
import LintTools.Strategy

/-! Parsers that turn every object of their payload into diagnostics on its own. Output with one
object a line is parsed by them line by line, however many of its lines are filled. -/
namespace LintTools.OutputParser
open Payload

/-- The parsers that read a lone object as they read it among others. -/
inductive ReadsObjects : OutputParser → Prop
  | extractor (rules : Extractor) (whole : rules.itemPath = none) : ReadsObjects (.extractor rules)
  | selene : ReadsObjects (.json .selene)
  | cargoClippy : ReadsObjects (.json .cargoClippy)

def recordFindings (parser : OutputParser) (root : Path) (record : Json) : List Diagnostic :=
  match parser with
  | extractor rules => (rules.diagnostic? record).toList
  | json report => report.recordDiagnostics root record
  | text _ => []

theorem extractor_items (rules : Extractor) (whole : rules.itemPath = none) (objects : List Json)
    (payload : Json) (holds : Holds objects payload) : rules.items payload = objects := by
  cases holds with
  | array => simp only [Extractor.items,whole]
  | lone entries one => simp only [Extractor.items,whole,one]

theorem records_held (objects : List Json) (payload : Json) (holds : Holds objects payload) :
    Report.records payload = objects := by
  cases holds with
  | array => rfl
  | lone entries one => exact one.symm

theorem findings_objects (parser : OutputParser) (root : Path) (output : String)
    (reads : parser.ReadsObjects) (objects : ObjectLines output.toList) :
    parser.findings root output =
      (lineObjects output.toList).flatMap (parser.recordFindings root) := by
  cases reads with
  | extractor rules whole =>
    have items := extractor_items rules whole _ _ (load_holds rules.format output.toList objects)
    have all := List.filter_eq_self.mpr (lineObjects_isObject output.toList objects)
    rw [findings,Extractor.parse,Extractor.diagnostics,items,all,
      List.filterMap_eq_flatMap_toList]
    rfl
  | selene =>
    have held := records_held _ _ (load_holds .document output.toList objects)
    rw [findings,JsonReport.diagnostics,JsonReport.records,held]
    rfl
  | cargoClippy =>
    have held := records_held _ _ (load_holds .document output.toList objects)
    rw [findings,JsonReport.diagnostics,JsonReport.records,held]
    rfl

/-- Output with one object a line is parsed as its lines are, one after another. -/
theorem parse_line_by_line (parser : OutputParser) (root : Path) (output : String)
    (reads : parser.ReadsObjects) (objects : ObjectLines output.toList) :
    parser.parse root output =
      (Text.pieces '\n' output.toList).flatMap fun line =>
        parser.parse root (String.ofList line) := by
  have each : ∀ line ∈ Text.pieces '\n' output.toList,
      parser.parse root (String.ofList line) =
        ((lineObjects line).flatMap (parser.recordFindings root)).filter (!·.message.isEmpty) := by
    intro line member
    have alone : ObjectLines (String.ofList line).toList := by
      rw [String.toList_ofList]
      exact objects.line output.toList line member
    rw [parse,findings_objects parser root (String.ofList line) reads alone,String.toList_ofList]
  rw [List.flatMap_congr each,parse,findings_objects parser root output reads objects,
    lineObjects_flatMap,List.flatMap_assoc,List.filter_flatMap]

def messageRules : Extractor :=
  ⟨none,.document,[(.message,⟨.path (some ⟨[.key "message"]⟩),none,[]⟩)]⟩

def twoMessages : String :=
  "\x7b\"message\":\"unused\"\x7d\n\n \x7b\"message\":\"shadowed\"\x7d"

theorem twoMessages_objects : ObjectLines twoMessages.toList := by
  have lines : Text.pieces '\n' twoMessages.toList =
      ["\x7b\"message\":\"unused\"\x7d".toList,[]," \x7b\"message\":\"shadowed\"\x7d".toList] := by
    cbv
  rw [ObjectLines,lines]
  intro line member
  simp only [List.mem_cons,List.not_mem_nil,or_false] at member
  rcases member with rfl | rfl | rfl
  · exact .inr ⟨[("message",.str "unused")],by cbv⟩
  · exact .inl rfl
  · exact .inr ⟨[("message",.str "shadowed")],by cbv⟩

theorem parse_two_messages : ReadsObjects (.extractor messageRules) ∧
    ObjectLines twoMessages.toList ∧
    parse (.extractor messageRules) ⟨"/"⟩ twoMessages =
      (Text.pieces '\n' twoMessages.toList).flatMap fun line =>
        parse (.extractor messageRules) ⟨"/"⟩ (String.ofList line) :=
  ⟨.extractor messageRules rfl,twoMessages_objects,parse_line_by_line (.extractor messageRules) ⟨"/"⟩
    twoMessages (.extractor messageRules rfl) twoMessages_objects⟩

end LintTools.OutputParser
