import LintTools.Proofs.Report.Blocks
import LintTools.Proofs.Report.Printed

/-! Places in the blocks of a report. A line that begins with the word for a place, in any case and
before a blank, is read as a place whatever stands behind it; every other line is noted in the
message and changes nothing else. So a place that has been told is kept by the lines behind it just
as far as none of them begins like one. -/
namespace LintTools.Report.Tombi
open Text

def Locates (line : List Char) : Prop :=
  ∃ word gap rest, line = word ++ gap :: rest ∧ sameAscii word "at".toList = true ∧
    isBlank gap = true

theorem place?_isSome_iff (line : List Char) (trimmed : Trimmed line) :
    (place? line).isSome = true ↔ Locates line := by
  constructor
  · intro placed
    obtain ⟨place,found⟩ := Option.isSome_iff_exists.mp placed
    obtain ⟨behind,worded,found⟩ := Option.bind_eq_some_iff.mp found
    obtain ⟨text,spaced,_⟩ := Option.bind_eq_some_iff.mp found
    obtain ⟨word,rfl,same⟩ := (afterWord?_iff _ _ _).mp worded
    obtain ⟨gap,rfl,filled,blank,_⟩ := (blanks?_iff _ _).mp spaced
    obtain ⟨c,gap,rfl⟩ := List.exists_cons_of_ne_nil filled
    exact ⟨word,c,gap ++ text,rfl,same,blank c List.mem_cons_self⟩
  · rintro ⟨word,c,behind,rfl,same,blank⟩
    have worded : afterWord? "at" (word ++ c :: behind) = some (c :: behind) :=
      (afterWord?_iff _ _ _).mpr ⟨word,rfl,same⟩
    obtain ⟨first,rest,visible⟩ : ∃ first rest, dropBlank (c :: behind) = first :: rest := by
      have filled := List.cons_ne_nil c behind
      apply List.exists_cons_of_ne_nil
      apply dropBlank_ne_nil _ filled
      rw [← List.getLast?_append_of_ne_nil word filled]
      exact trimmed.2
    have spaced : blanks? (c :: behind) = some (first :: rest) := by
      rw [blanks?,run?,List.takeWhile_cons_of_pos blank]
      exact congrArg some visible
    obtain ⟨cut,found⟩ := Option.isSome_iff_exists.mp
      ((firstCut?_isSome_iff positionAtEnd? rest).mpr ⟨rest,[],(List.append_nil rest).symm,rfl⟩)
    rw [place?,worded]
    simp only [Option.bind_eq_bind,Option.bind_some,spaced,found]
    rfl

def notes : List (List Char) → String
  | [] => ""
  | line :: lines => " (" ++ String.ofList line ++ ")" ++ notes lines

def annotate (lines : List (List Char)) (d : Diagnostic) : Diagnostic :=
  { d with message := d.message ++ notes lines }

theorem annotate_nil (d : Diagnostic) : annotate [] d = d := by
  simp [annotate,notes]

theorem annotate_cons (line : List Char) (lines : List (List Char)) (d : Diagnostic) :
    annotate (line :: lines) d = annotate lines (annotate [line] d) := by
  simp [annotate,notes,String.append_assoc]

/-- A line is noted unless it gives a place, for a place leaves the message as it is. -/
theorem extend_eq_annotate_iff (line : List Char) (d : Diagnostic) :
    extend line d = annotate [line] d ↔ place? line = none := by
  rw [extend]
  cases place? line with
  | none => simp [annotate,notes,String.append_assoc]
  | some place =>
    simp only [reduceCtorEq,iff_false]
    intro same
    have message : d.message = d.message ++ notes [line] := congrArg Diagnostic.message same
    have longer := congrArg String.length message
    have mark : " (".length = 2 := rfl
    simp only [notes,String.length_append] at longer
    omega

theorem extendAll_append (d : Diagnostic) (before after : List (List Char)) :
    extendAll d (before ++ after) = extendAll (extendAll d before) after := List.foldl_append

theorem extendAll_annotate (d : Diagnostic) (lines : List (List Char))
    (plain : ∀ line ∈ lines, place? line = none) : extendAll d lines = annotate lines d := by
  induction lines generalizing d with
  | nil => exact (annotate_nil d).symm
  | cons line lines ih =>
    have first := (extend_eq_annotate_iff line d).mpr (plain line List.mem_cons_self)
    have others := ih (extend line d) fun other member => plain other (List.mem_cons_of_mem _ member)
    rw [annotate_cons,← first,← others]
    rfl

structure Place where
  file : List Char
  line : Decimal
  column : Decimal
  filled : file ≠ []
  apart : ':' ∉ file

def Place.written (place : Place) : List Char :=
  "at ".toList ++ (place.file ++ ':' :: (place.line.digits ++ ':' :: place.column.digits))

def IsPlace (line : List Char) : Prop := ∃ place : Place, place.written = line

def Keeps (opened : Diagnostic) (before after : List (List Char)) : Prop :=
  ∀ seen lines rest, after = seen ++ lines ++ rest → (∀ line ∈ lines, ¬IsPlace line) →
    extendAll opened (before ++ seen ++ lines) = annotate lines (extendAll opened (before ++ seen))

theorem keeps_iff (opened : Diagnostic) (before after : List (List Char)) :
    Keeps opened before after ↔ ∀ line ∈ after, ¬IsPlace line → place? line = none := by
  constructor
  · intro kept line member other
    obtain ⟨seen,rest,rfl⟩ := List.append_of_mem member
    have alone := kept seen [line] rest (by simp) (by simpa using other)
    rw [extendAll_append] at alone
    exact (extend_eq_annotate_iff line _).mp alone
  · rintro plain seen lines rest rfl others
    rw [extendAll_append]
    apply extendAll_annotate
    intro line member
    exact plain line (by simp [member]) (others line member)

/-! Blocks of a report are made of its lines. -/

theorem header_of_mem_blocks (lines : List (List Char)) (block : Block)
    (member : block ∈ blocks lines) : isHeader block.header = true := by
  have inside : block.header ∈ lines.filter isHeader :=
    blocks_headers lines ▸ List.mem_map_of_mem member
  exact (List.mem_filter.mp inside).2

theorem lines_of_mem_blocks (lines : List (List Char)) (block : Block)
    (member : block ∈ blocks lines) : block.lines ⊆ lines := by
  intro line inside
  rw [← blocks_cover lines]
  exact List.mem_append_right _ (List.mem_flatMap.mpr ⟨block,member,inside⟩)

theorem reportLines_trimmed (output : String) (line : List Char)
    (member : line ∈ reportLines output) : Trimmed line :=
  (strip_eq_self_iff line).mp (strip_of_mem_filledLines _ line member)

/-- Behind a place told in full, the lines of a block change no place and go into the message,
places in full apart, exactly when those that begin like a place are all places in full. -/
theorem place_kept_iff (output : String) (block : Block)
    (member : block ∈ blocks (reportLines output)) (before after : List (List Char)) (place : Place)
    (shape : block.details = before ++ place.written :: after) :
    ∃ opened, header? block.header = some opened ∧
      extendAll opened block.details ∈ TextReport.tombi.diagnostics output ∧
      (Keeps opened (before ++ [place.written]) after ↔
        ∀ line ∈ after, Locates line → IsPlace line) := by
  obtain ⟨opened,found⟩ := Option.isSome_iff_exists.mp (header_of_mem_blocks _ block member)
  refine ⟨opened,found,?_,?_⟩
  · rw [diagnostics_blocks]
    exact List.mem_filterMap.mpr ⟨block,member,Block.diagnostic?_opened _ _ opened found⟩
  · rw [keeps_iff]
    apply forall₂_congr
    intro line inside
    have listed : line ∈ block.lines := by simp [Block.lines,shape,inside]
    have trimmed := reportLines_trimmed output line (lines_of_mem_blocks _ block member listed)
    rw [← place?_isSome_iff line trimmed,← Option.not_isSome_iff_eq_none]
    exact not_imp_not

def firstPlace : Place :=
  ⟨"a.toml".toList,⟨['3'],by decide,List.all_eq_true.mp rfl,by decide⟩,
    ⟨['0','5'],by decide,List.all_eq_true.mp rfl,by decide⟩,by decide,by decide⟩

def secondPlace : Place :=
  ⟨"b c.toml".toList,⟨['4'],by decide,List.all_eq_true.mp rfl,by decide⟩,
    ⟨['1'],by decide,List.all_eq_true.mp rfl,by decide⟩,by decide,by decide⟩

def attachedBlock : Block :=
  ⟨"Error: invalid key".toList,
    ["in a table".toList,firstPlace.written,"attached to [tool]".toList,secondPlace.written]⟩

def attachedKey : String :=
  "Error: invalid key\n in a table\n at a.toml:3:05\n attached to [tool]\n at b c.toml:4:1\n"

theorem attachedKey_kept :
    attachedBlock ∈ blocks (reportLines attachedKey) ∧
    attachedBlock.details = ["in a table".toList] ++
      firstPlace.written :: ["attached to [tool]".toList,secondPlace.written] ∧
    ∃ opened, header? attachedBlock.header = some opened ∧
      extendAll opened attachedBlock.details ∈ TextReport.tombi.diagnostics attachedKey ∧
      Keeps opened (["in a table".toList] ++ [firstPlace.written])
        ["attached to [tool]".toList,secondPlace.written] := by
  have lines : reportLines attachedKey = attachedBlock.lines := by decide +kernel
  have header : isHeader attachedBlock.header = true := by decide +kernel
  have member : attachedBlock ∈ blocks (reportLines attachedKey) := by
    have details : untilHeader attachedBlock.details = attachedBlock.details := by decide +kernel
    rw [lines,Block.lines,blocks,if_pos header,details]
    exact List.mem_cons_self
  have plain : ¬Locates "attached to [tool]".toList := by
    rw [← place?_isSome_iff _ (by decide)]
    decide +kernel
  have shape : attachedBlock.details = ["in a table".toList] ++
      firstPlace.written :: ["attached to [tool]".toList,secondPlace.written] := rfl
  obtain ⟨opened,found,given,kept⟩ :=
    place_kept_iff attachedKey attachedBlock member _ _ firstPlace shape
  refine ⟨member,shape,opened,found,given,kept.mpr ?_⟩
  intro line inside locates
  simp only [List.mem_cons,List.not_mem_nil,or_false] at inside
  rcases inside with rfl | rfl
  · exact absurd locates plain
  · exact ⟨secondPlace,rfl⟩

def topLevelKey : String :=
  "Error: invalid key\n    at a.toml:3:05\n    at the top level\n"

/-- A detail that begins like a place takes the place away and is missing in the message. -/
theorem topLevelKey_replaced :
    reportLines topLevelKey =
      ["Error: invalid key".toList,firstPlace.written,"at the top level".toList] ∧
    ¬IsPlace "at the top level".toList ∧
    TextReport.tombi.diagnostics topLevelKey =
      [{ file := some "the top level"
         severity := some "error"
         tool := some "tombi"
         message := "invalid key" }] := by
  refine ⟨by decide +kernel,?_,by decide +kernel⟩
  rintro ⟨place,same⟩
  have colon : ':' ∈ place.written := by simp [Place.written]
  rw [same] at colon
  exact absurd colon (by decide)

end LintTools.Report.Tombi
