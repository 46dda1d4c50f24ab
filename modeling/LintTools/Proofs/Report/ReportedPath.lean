import LintTools.Proofs.Path.Anchoring
import LintTools.Proofs.Report.Files
import LintTools.Proofs.Report.Independence
import Mathlib

/-! Paths in the reports that are cut below the root. Whatever is left of a path leads from the root
to where the path itself leads, and a path outside of the root is left as it is written. So what two
records tell of one file they tell of one place. -/
namespace LintTools.JsonReport
open Report

def rootedReports : List JsonReport := [ruff,pylint,pyright,mypy,selene]

/-- From the root, `file` leads where `path` leads; only a path below the root is written anew. -/
structure StandsFor (root : Path) (file path : String) : Prop where
  place : (root ++ ⟨file⟩ : Path).components = (root ++ ⟨path⟩ : Path).components
  written : ¬root.components <+: Path.components ⟨path⟩ → file = path

theorem reportedPath_standsFor (root : Path) (path : String) (rooted : root.isAbsolute = true)
    (filled : path ≠ "") :
    ∃ file, reportedPath root (some path) = some file ∧ StandsFor root file path := by
  have head := (Path.isAbsolute_iff root).mp rooted
  have based : root.components ≠ [] := by
    intro empty
    simp [empty] at head
  have kept : (some path).filter (!·.isEmpty) = some path := by simp [filled]
  rw [reportedPath,kept,Option.map_some]
  cases found : Path.below? ⟨path⟩ root with
  | none => exact ⟨path,rfl,rfl,fun _ => rfl⟩
  | some part =>
    obtain ⟨rest,_,_,shape⟩ := Path.below?_behind ⟨path⟩ root part based found
    have absolute : Path.isAbsolute ⟨path⟩ = true := by
      rw [Path.isAbsolute_iff,shape,List.head?_append_of_ne_nil _ based,head]
    refine ⟨part.text,rfl,?_,fun outside => absurd ⟨_,shape.symm⟩ outside⟩
    rw [Path.append_of_absolute root ⟨path⟩ absolute]
    exact Path.components_append_below ⟨path⟩ root part based found

/-- A record with a path is an object, so it is one that the report tells of. -/
theorem recordDiagnostics_rooted (report : JsonReport) (member : report ∈ rootedReports)
    (root : Path) (record : Json) (path : String) (given : report.rootedPath? record = some path)
    (kind : report = .selene → text? record ["type"] = some "diagnostic") :
    ∃ d, report.recordDiagnostics root record = [d] ∧ d.file = reportedPath root (some path) := by
  have object (names : List String) (found : text? record names = some path) :
      record.isObject = true := by
    by_contra stray
    rw [Bool.not_eq_true] at stray
    rw [text?_stray record stray names] at found
    contradiction
  rw [← given]
  cases report with
  | ruff | pylint | pyright | mypy => exact ⟨_,if_pos (object _ given),rfl⟩
  | selene => exact ⟨_,if_pos (kind rfl),rfl⟩
  | _ => exact absurd member (by decide)

section Rooted
variable (root : Path) (rooted : root.isAbsolute = true) (report : JsonReport)
  (member : report ∈ rootedReports) (record : Json) (path : String)
  (given : report.rootedPath? record = some path)
include rooted member given

theorem recordDiagnostics_standsFor
    (kind : report = .selene → text? record ["type"] = some "diagnostic") :
    ∃ d file, report.recordDiagnostics root record = [d] ∧ d.file = some file ∧
      StandsFor root file path := by
  obtain ⟨d,single,same⟩ := recordDiagnostics_rooted report member root record path given kind
  obtain ⟨file,found,stands⟩ := reportedPath_standsFor root path rooted
    (report.rootedPath_filled record path given)
  exact ⟨d,file,single,same.trans found,stands⟩

theorem file_standsFor (d : Diagnostic) (inside : d ∈ report.recordDiagnostics root record) :
    ∃ file, d.file = some file ∧ StandsFor root file path := by
  have kind : report = .selene → text? record ["type"] = some "diagnostic" := by
    rintro rfl
    by_contra untold
    rw [recordDiagnostics,if_neg untold] at inside
    exact List.not_mem_nil inside
  obtain ⟨_,file,single,same,stands⟩ :=
    recordDiagnostics_standsFor root rooted report member record path given kind
  rw [single,List.mem_singleton] at inside
  exact ⟨file,inside ▸ same,stands⟩

end Rooted

/-- Under an absolute root, each record with a path gives one diagnostic, whose file stands for the
path. So records that are given the same file have paths that lead from the root to one place. -/
theorem files_stand_for (root : Path) (rooted : root.isAbsolute = true) :
    (∀ report ∈ rootedReports, ∀ record path, report.rootedPath? record = some path →
      (report = .selene → text? record ["type"] = some "diagnostic") →
      ∃ d file, report.recordDiagnostics root record = [d] ∧ d.file = some file ∧
        StandsFor root file path) ∧
    ∀ report ∈ rootedReports, ∀ other ∈ rootedReports, ∀ record record' path path',
      report.rootedPath? record = some path → other.rootedPath? record' = some path' →
      ∀ d ∈ report.recordDiagnostics root record, ∀ d' ∈ other.recordDiagnostics root record',
        d.file = d'.file →
          (root ++ ⟨path⟩ : Path).components = (root ++ ⟨path'⟩ : Path).components := by
  constructor
  · intro report member record path given kind
    exact recordDiagnostics_standsFor root rooted report member record path given kind
  · intro report member other otherMember record record' path path' given given' d inside d' inside'
      same
    obtain ⟨file,found,first⟩ := file_standsFor root rooted report member record path given d inside
    obtain ⟨file',found',second⟩ :=
      file_standsFor root rooted other otherMember record' path' given' d' inside'
    rw [found,found',Option.some.injEq] at same
    rw [← first.place,same,second.place]

def crookedRecord : Json := .obj [("filename",.str "/repo//.//src/../a.py/"),("message",.str "bad")]

def labelledRecord : Json :=
  .obj [("primary_label",.obj [("filename",.str "src/../a.py")]),("type",.str "diagnostic")]

theorem crookedRecord_stands :
    Path.isAbsolute ⟨"/repo/."⟩ = true ∧
    ruff ∈ rootedReports ∧ ruff.rootedPath? crookedRecord = some "/repo//.//src/../a.py/" ∧
    ruff ≠ selene ∧
    (∃ d file, ruff.recordDiagnostics ⟨"/repo/."⟩ crookedRecord = [d] ∧ d.file = some file ∧
      file = "src/../a.py" ∧ StandsFor ⟨"/repo/."⟩ file "/repo//.//src/../a.py/") ∧
    selene ∈ rootedReports ∧ selene.rootedPath? labelledRecord = some "src/../a.py" ∧
    (⟨"/repo/."⟩ ++ ⟨"/repo//.//src/../a.py/"⟩ : Path).components =
      (⟨"/repo/."⟩ ++ ⟨"src/../a.py"⟩ : Path).components := by
  have rooted : Path.isAbsolute ⟨"/repo/."⟩ = true := rfl
  have member : ruff ∈ rootedReports := by decide
  have given : ruff.rootedPath? crookedRecord = some "/repo//.//src/../a.py/" := rfl
  have other : ruff ≠ selene := by decide
  have memberToo : selene ∈ rootedReports := by decide
  have givenToo : selene.rootedPath? labelledRecord = some "src/../a.py" := rfl
  have cut : (ruffItem ⟨"/repo/."⟩ crookedRecord).file = some "src/../a.py" := by decide +kernel
  have uncut : (seleneItem ⟨"/repo/."⟩ labelledRecord).file = some "src/../a.py" := by
    decide +kernel
  obtain ⟨each,both⟩ := files_stand_for ⟨"/repo/."⟩ rooted
  obtain ⟨d,file,single,same,stands⟩ := each ruff member crookedRecord _ given
    fun wrong => absurd wrong other
  refine ⟨rooted,member,given,other,⟨d,file,single,same,?_,stands⟩,memberToo,givenToo,?_⟩
  · obtain rfl : ruffItem ⟨"/repo/."⟩ crookedRecord = d := (List.cons.inj single).1
    exact Option.some.inj (same.symm.trans cut)
  · exact both ruff member selene memberToo _ _ _ _ given givenToo _ List.mem_cons_self _
      List.mem_cons_self (cut.trans uncut.symm)

end LintTools.JsonReport
