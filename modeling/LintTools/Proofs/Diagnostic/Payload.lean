import LintTools.Diagnostic.Payload
import LintTools.Proofs.Json.Continuation
import LintTools.Proofs.Text.Lines

/-! Output with one object a line, as a payload. Two objects make no document together, so that the
payload of several lines is their array in either format; a lone object may stand for itself. -/
namespace LintTools.Payload

def ObjectLines (output : List Char) : Prop :=
  ∀ line ∈ Text.pieces '\n' output, Text.strip line = [] ∨
    ∃ entries, Json.read? (Text.strip line) = some (.obj entries)

def lineObjects (output : List Char) : List Json := (Text.filledLines output).filterMap Json.read?

inductive Holds (objects : List Json) : Json → Prop
  | array : Holds objects (.arr objects)
  | lone (entries) (one : objects = [.obj entries]) : Holds objects (.obj entries)

theorem ObjectLines.filled (output : List Char) (objects : ObjectLines output) :
    ∀ line ∈ Text.filledLines output, ∃ entries, Json.read? line = some (.obj entries) := by
  intro line member
  obtain ⟨inside,filled⟩ := List.mem_filter.mp member
  obtain ⟨piece,written,rfl⟩ := List.mem_map.mp inside
  rcases objects piece written with empty | read
  · simp [empty] at filled
  · exact read

theorem ObjectLines.line (output line : List Char) (objects : ObjectLines output)
    (member : line ∈ Text.pieces '\n' output) : ObjectLines line := by
  intro piece inside
  rw [Text.pieces_of_not_mem '\n' line (Text.not_mem_of_mem_pieces '\n' output line member)] at inside
  rw [List.mem_singleton.mp inside]
  exact objects line member

theorem lineObjects_isObject (output : List Char) (objects : ObjectLines output) :
    ∀ record ∈ lineObjects output, record.isObject = true := by
  intro record member
  obtain ⟨line,inside,read⟩ := List.mem_filterMap.mp member
  obtain ⟨entries,found⟩ := objects.filled output line inside
  rw [found] at read
  obtain rfl := Option.some.inj read
  rfl

theorem lineObjects_flatMap (output : List Char) :
    lineObjects output = (Text.pieces '\n' output).flatMap lineObjects := by
  rw [lineObjects,Text.filledLines_flatMap,List.filterMap_flatMap]
  rfl

theorem isSpace_blank (c : Char) (space : Json.isSpace c = true) : Text.isBlank c = true := by
  simp only [Json.isSpace,Bool.or_eq_true,decide_eq_true_eq] at space
  rcases space with ((rfl | rfl) | rfl) | rfl <;> decide

theorem skipSpace_blank (cs : List Char) (blank : Json.skipSpace cs = []) : Text.Blank cs := by
  intro c member
  exact isSpace_blank c (List.dropWhile_eq_nil_iff.mp blank c member)

/-- Several objects on their lines are not one document. -/
theorem read?_lines (output first second : List Char) (others : List (List Char)) (entries : Entries)
    (filled : Text.filledLines output = first :: second :: others)
    (read : Json.read? first = some (.obj entries)) : Json.read? (Text.strip output) = none := by
  obtain ⟨tail,same,following⟩ := Text.strip_starts output first (second :: others) filled
  rw [same]
  apply Json.read?_object_append first tail entries read
  intro blank
  rw [(Text.filledLines_eq_nil_iff tail).mpr (skipSpace_blank tail blank)] at following
  contradiction

theorem ofLines_strip (output : List Char) :
    ofLines (Text.strip output) = .arr (lineObjects output) := by
  rw [ofLines,Text.filledLines_strip,lineObjects]

theorem load_document (output : List Char) (objects : ObjectLines output)
    (visible : Text.strip output ≠ []) :
    Holds (lineObjects output)
      ((Json.read? (Text.strip output)).getD (ofLines (Text.strip output))) := by
  cases filled : Text.filledLines output with
  | nil =>
    have blank := (Text.filledLines_eq_nil_iff output).mp filled
    exact absurd ((Text.strip_eq_nil_iff output).mpr blank) visible
  | cons first others =>
    obtain ⟨entries,read⟩ := objects.filled output first (by rw [filled]; exact List.mem_cons_self)
    -- One object is the document itself; several are none, and are read as lines.
    cases others with
    | nil =>
      rw [Text.strip_single output first filled,read]
      exact .lone entries (by rw [lineObjects,filled]; simp [read])
    | cons second others =>
      rw [read?_lines output first second others entries filled read,Option.getD_none,
        ofLines_strip]
      exact .array

/-- Output with one object a line is loaded as these objects. -/
theorem load_holds (format : InputFormat) (output : List Char) (objects : ObjectLines output) :
    Holds (lineObjects output) (load format output) := by
  rw [load]
  split
  next empty =>
    have blank := (Text.strip_eq_nil_iff output).mp empty
    rw [show lineObjects output = [] by
      rw [lineObjects,(Text.filledLines_eq_nil_iff output).mpr blank]; rfl]
    exact .array
  next text visible =>
    cases format with
    | lines =>
      rw [ofLines_strip]
      exact .array
    | document => exact load_document output objects visible

end LintTools.Payload
