import LintTools.Proofs.Output.LineByLine
import Mathlib

/-! A report of one object a line against the array of the same objects. Where records are taken from
an array only, an object that is alone in its output is none, and its diagnostic is lost. Any other
number of objects makes no difference. -/
namespace LintTools.OutputParser
open Payload JsonReport

def hasMessage (record : Json) : Bool :=
  ((record.get? "message").bind (·.text?)).any fun text => !(Text.trim text).isEmpty

theorem mypyItem_message (root : Path) (record : Json) :
    (mypyItem root record).message.isEmpty = !hasMessage record := by
  have shape : (mypyItem root record).message = Report.message record ["message"] := rfl
  rw [shape,hasMessage,Report.message,Report.text?,List.findSome?_singleton]
  cases (record.get? "message").bind (·.text?) with
  | none => rfl
  | some text =>
    by_cases empty : text = ""
    · subst empty
      rfl
    · simp [Option.filter,empty]

/-- Every object of an array gives a diagnostic if it has a message. -/
theorem mypy_array (root : Path) (records : List Json)
    (objects : ∀ record ∈ records, record.isObject = true) :
    (JsonReport.mypy.diagnostics root (.arr records)).filter (!·.message.isEmpty) =
      (records.filter hasMessage).map (mypyItem root) := by
  have each (record : Json) (member : record ∈ records) :
      JsonReport.mypy.recordDiagnostics root record = [mypyItem root record] := by
    rw [recordDiagnostics,ofObject,objects record member,if_pos rfl]
  have all : JsonReport.mypy.diagnostics root (.arr records) = records.map (mypyItem root) := by
    rw [List.map_eq_flatMap]
    exact List.flatMap_congr each
  rw [all,List.filter_map]
  congr 2
  funext record
  simp [mypyItem_message]

/-! Output as one document. -/

theorem load_read (output : List Char) (payload : Json)
    (read : Json.read? (Text.strip output) = some payload) : load .document output = payload := by
  rw [load]
  split
  next empty =>
    rw [empty] at read
    have absent : Json.read? [] = none := rfl
    rw [absent] at read
    contradiction
  next =>
    rw [read]
    rfl

/-- A record that is alone in the output is the whole document. -/
theorem load_lone (output : List Char) (objects : ObjectLines output) (record : Json)
    (lone : lineObjects output = [record]) : load .document output = record := by
  cases filled : Text.filledLines output with
  | nil =>
    rw [lineObjects,filled] at lone
    contradiction
  | cons first others =>
    obtain ⟨entries,read⟩ := objects.filled output first (by rw [filled]; exact List.mem_cons_self)
    rw [lineObjects,filled,List.filterMap_cons_some read] at lone
    obtain ⟨rfl,none⟩ := List.cons.inj lone
    cases others with
    | nil =>
      rw [← Text.strip_single output first filled] at read
      exact load_read output _ read
    | cons second others =>
      obtain ⟨more,further⟩ := objects.filled output second (by simp [filled])
      rw [List.filterMap_cons_some further] at none
      contradiction

theorem load_several (output : List Char) (objects : ObjectLines output)
    (several : ∀ record, lineObjects output ≠ [record]) :
    load .document output = .arr (lineObjects output) := by
  have holds := load_holds .document output objects
  generalize load .document output = payload at holds ⊢
  cases holds with
  | array => rfl
  | lone entries one => exact absurd one (several _)

/-- Objects on lines of their own are read as their array is, unless there is one object only and it
has a message. -/
theorem mypy_lines_iff (root : Path) (output document : String)
    (objects : ObjectLines output.toList)
    (array : Json.read? (Text.strip document.toList) = some (.arr (lineObjects output.toList))) :
    parse (.json .mypy) root document =
        ((lineObjects output.toList).filter hasMessage).map (mypyItem root) ∧
      (parse (.json .mypy) root output = parse (.json .mypy) root document ↔
        ∀ record, lineObjects output.toList = [record] → hasMessage record = false) := by
  have each := mypy_array root _ (lineObjects_isObject output.toList objects)
  have whole : parse (.json .mypy) root document =
      ((lineObjects output.toList).filter hasMessage).map (mypyItem root) := by
    rw [parse,findings,load_read document.toList _ array,each]
  refine ⟨whole,?_⟩
  rw [whole]
  by_cases lone : ∃ record, lineObjects output.toList = [record]
  · obtain ⟨record,lone⟩ := lone
    have object := lineObjects_isObject output.toList objects record (by simp [lone])
    have lost : parse (.json .mypy) root output = [] := by
      rw [parse,findings,load_lone output.toList objects record lone]
      cases record with
      | obj entries => rfl
      | _ => contradiction
    rw [lost,lone]
    cases given : hasMessage record <;> simp [given]
  · have several (record : Json) : lineObjects output.toList ≠ [record] :=
      fun one => lone ⟨record,one⟩
    have same : parse (.json .mypy) root output =
        ((lineObjects output.toList).filter hasMessage).map (mypyItem root) := by
      rw [parse,findings,load_several output.toList objects several,each]
    exact iff_of_true same fun record one => absurd one (several record)

def twoMessagesArray : String :=
  "[\x7b\"message\":\"unused\"\x7d,\n\x7b\"message\":\"shadowed\"\x7d]"

theorem twoMessages_as_array : ObjectLines twoMessages.toList ∧
    Json.read? (Text.strip twoMessagesArray.toList) = some (.arr (lineObjects twoMessages.toList)) ∧
    parse (.json .mypy) ⟨"/"⟩ twoMessages = parse (.json .mypy) ⟨"/"⟩ twoMessagesArray := by
  have array : Json.read? (Text.strip twoMessagesArray.toList) =
      some (.arr (lineObjects twoMessages.toList)) := by cbv
  have two : lineObjects twoMessages.toList =
      [.obj [("message",.str "unused")],.obj [("message",.str "shadowed")]] := by cbv
  have agree := (mypy_lines_iff ⟨"/"⟩ twoMessages twoMessagesArray twoMessages_objects array).2
  exact ⟨twoMessages_objects,array,agree.mpr (by simp [two])⟩

def loneMessage : String := "\x7b\"file\":\"a.py\",\"line\":2,\"message\":\"bad\"\x7d"

/-- One object on its line is lost, and found in brackets. -/
theorem loneMessage_lost : ObjectLines loneMessage.toList ∧
    Json.read? ("[" ++ loneMessage ++ "]").toList = some (.arr (lineObjects loneMessage.toList)) ∧
    parse (.json .mypy) ⟨"/"⟩ loneMessage = [] ∧
    parse (.json .mypy) ⟨"/"⟩ ("[" ++ loneMessage ++ "]") =
      [{ file := some "a.py"
         line := some 2
         severity := some "error"
         message := "bad"
         tool := some "mypy" }] := by
  have line : Text.pieces '\n' loneMessage.toList = [loneMessage.toList] := by cbv
  refine ⟨?_,by cbv,by cbv,by cbv⟩
  intro text member
  rw [line] at member
  obtain rfl := List.mem_singleton.mp member
  exact .inr ⟨[("file",.str "a.py"),("line",.num (.whole 2 (by decide))),("message",.str "bad")],
    by cbv⟩

end LintTools.OutputParser
