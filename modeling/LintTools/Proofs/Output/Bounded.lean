import LintTools.Proofs.Report.Lines
import LintTools.Proofs.Text.Numeral
import LintTools.Strategy

/-! Lines and columns stay within 64 bits. Whatever a parser is given, the places that it returns are
signed numbers of that width, so each of them has a form in JSON. -/
namespace LintTools

open Text (isSigned)

structure Diagnostic.Bounded (d : Diagnostic) : Prop where
  line : ∀ n ∈ d.line, isSigned n = true
  column : ∀ n ∈ d.column, isSigned n = true

theorem Json.ofInt?_signed (n : Int) (signed : isSigned n = true) :
    ∃ inRange, ofInt? n = some (.num (.whole n inRange)) := by
  rw [isSigned,Bool.and_eq_true,decide_eq_true_iff,decide_eq_true_iff,Text.minSigned,
    Text.maxSigned] at signed
  exact ⟨by omega,dif_pos (by omega)⟩

theorem bind_ofInt?_signed {place : Option Int} (signed : ∀ n ∈ place, isSigned n = true) (n : Int)
    (known : n ∈ place) : ∃ inRange, place.bind Json.ofInt? = some (.num (.whole n inRange)) := by
  obtain ⟨inRange,shown⟩ := Json.ofInt?_signed n (signed n known)
  refine ⟨inRange,?_⟩
  rw [known,Option.bind_some,shown]

theorem Diagnostic.Bounded.places_shown {d : Diagnostic} (bounded : d.Bounded) :
    (∀ n ∈ d.line, ∃ inRange, ("line",.num (.whole n inRange)) ∈ d.attributes) ∧
      ∀ n ∈ d.column, ∃ inRange, ("column",.num (.whole n inRange)) ∈ d.attributes := by
  constructor
  · intro n known
    obtain ⟨inRange,shown⟩ := bind_ofInt?_signed bounded.line n known
    refine ⟨inRange,List.mem_filterMap.mpr ⟨("line",d.line.bind Json.ofInt?),?_,?_⟩⟩
    · exact List.mem_cons_of_mem _ List.mem_cons_self
    · rw [shown]
      rfl
  · intro n known
    obtain ⟨inRange,shown⟩ := bind_ofInt?_signed bounded.column n known
    refine ⟨inRange,List.mem_filterMap.mpr ⟨("column",d.column.bind Json.ofInt?),?_,?_⟩⟩
    · exact List.mem_cons_of_mem _ (List.mem_cons_of_mem _ List.mem_cons_self)
    · rw [shown]
      rfl

theorem none_bounded : ∀ n ∈ (none : Option Int), isSigned n = true := by
  simp

theorem clampSigned_signed (n : Int) : isSigned (clampSigned n) = true := by
  rw [isSigned,Bool.and_eq_true,decide_eq_true_iff,decide_eq_true_iff,clampSigned,Text.minSigned,
    Text.maxSigned]
  omega

theorem Double.signed?_signed (x : Double) : ∀ n ∈ x.signed?, isSigned n = true := by
  intro n found
  obtain ⟨_,same⟩ := Option.ite_none_right_eq_some.mp found
  exact Option.some.inj same ▸ clampSigned_signed x.truncate

theorem Number.toInt?_bounded (v : Number) : ∀ n ∈ v.toInt?, isSigned n = true := by
  intro n found
  cases v with
  | whole value inRange =>
    rw [toInt?] at found
    split at found
    · rename_i signed
      exact Option.some.inj found ▸ signed
    · obtain ⟨x,_,read⟩ := Option.bind_eq_some_iff.mp found
      exact x.signed?_signed n read
  | double x =>
    obtain ⟨_,read⟩ := Option.ite_none_right_eq_some.mp found
    exact x.signed?_signed n read

theorem Json.toInt?_bounded (value : Json) : ∀ n ∈ value.toInt?, isSigned n = true := by
  intro n found
  cases value with
  | bool flag =>
    cases flag <;> exact Option.some.inj found ▸ rfl
  | num v => exact v.toInt?_bounded n found
  | str text => exact Text.readSigned_signed _ n found
  | null => contradiction
  | arr items => contradiction
  | obj entries => contradiction

theorem bind_toInt?_bounded (found : Option Json) :
    ∀ n ∈ found.bind (·.toInt?), isSigned n = true := by
  intro n read
  obtain ⟨value,_,same⟩ := Option.bind_eq_some_iff.mp read
  exact value.toInt?_bounded n same

theorem Report.number?_bounded (item : Json) (names : List String) :
    ∀ n ∈ number? item names, isSigned n = true := by
  intro n found
  obtain ⟨name,_,read⟩ := List.exists_of_findSome?_eq_some found
  exact bind_toInt?_bounded (item.get? name) n read

namespace JsonReport
open Report

theorem oneBased?_bounded (value : Option Json) : ∀ n ∈ oneBased? value, isSigned n = true := by
  intro n found
  unfold oneBased? at found
  split at found
  · obtain ⟨_,same⟩ := Option.ite_none_right_eq_some.mp found
    exact Option.some.inj same ▸ Text.wrapSigned_signed _
  · contradiction

theorem recordDiagnostics_bounded (report : JsonReport) (root : Path) (record : Json)
    (d : Diagnostic) (member : d ∈ report.recordDiagnostics root record) : d.Bounded := by
  cases report with
  | ruff =>
    obtain rfl := mem_ofObject _ record d member
    exact ⟨bind_toInt?_bounded _,bind_toInt?_bounded _⟩
  | pylint =>
    obtain rfl := mem_ofObject _ record d member
    exact ⟨number?_bounded _ _,number?_bounded _ _⟩
  | pyright =>
    obtain rfl := mem_ofObject _ record d member
    exact ⟨bind_toInt?_bounded _,bind_toInt?_bounded _⟩
  | mypy =>
    obtain rfl := mem_ofObject _ record d member
    exact ⟨number?_bounded _ _,number?_bounded _ _⟩
  | selene =>
    rw [recordDiagnostics] at member
    split at member
    · obtain rfl := List.mem_singleton.mp member
      exact ⟨oneBased?_bounded _,oneBased?_bounded _⟩
    · simp at member
  | eslint =>
    obtain ⟨item,_,rfl⟩ := List.mem_map.mp member
    exact ⟨number?_bounded _ _,number?_bounded _ _⟩
  | stylelint =>
    obtain ⟨item,_,rfl⟩ := List.mem_map.mp member
    exact ⟨number?_bounded _ _,number?_bounded _ _⟩
  | actionlint =>
    obtain rfl := List.mem_singleton.mp member
    exact ⟨number?_bounded _ _,number?_bounded _ _⟩
  | hadolint =>
    obtain rfl := List.mem_singleton.mp member
    exact ⟨number?_bounded _ _,number?_bounded _ _⟩
  | bandit =>
    obtain rfl := List.mem_singleton.mp member
    exact ⟨number?_bounded _ _,none_bounded⟩
  | sqlfluff =>
    obtain ⟨item,_,rfl⟩ := List.mem_map.mp member
    exact ⟨number?_bounded _ _,number?_bounded _ _⟩
  | golangciLint =>
    obtain rfl := mem_ofObject _ record d member
    exact ⟨number?_bounded _ _,number?_bounded _ _⟩
  | cargoClippy =>
    obtain ⟨item,_,rfl⟩ := List.mem_map.mp member
    refine ⟨?_,?_⟩
    all_goals
      intro n found
      obtain ⟨span,_,read⟩ := Option.bind_eq_some_iff.mp found
      exact number?_bounded span _ n read
  | kubeLinter =>
    obtain rfl := List.mem_singleton.mp member
    exact ⟨none_bounded,none_bounded⟩
  | dockerfilelint =>
    obtain ⟨issue,_,rfl⟩ := List.mem_map.mp member
    refine ⟨?_,none_bounded⟩
    intro n found
    exact number?_bounded issue _ n (Option.filter_eq_some_iff.mp found).1

end JsonReport

namespace TextReport
open Report LintTools.Text

theorem bind_readSigned_bounded (digits : Option (List Char)) :
    ∀ n ∈ digits.bind readSigned, isSigned n = true := by
  intro n found
  obtain ⟨cs,_,read⟩ := Option.bind_eq_some_iff.mp found
  exact readSigned_signed cs n read

theorem form_bounded (report : TextReport) (line : List Char) :
    ∀ d ∈ report.form? line, d.Bounded := by
  cases report with
  | tsc =>
    dsimp only [form?,tscLine?]
    repeat refine bind_gives fun _ => ?_
    exact pure_gives ⟨readSigned_signed _,readSigned_signed _⟩
  | lualint =>
    dsimp only [form?,lualintLine?]
    repeat refine bind_gives fun _ => ?_
    exact pure_gives ⟨readSigned_signed _,none_bounded⟩
  | luacheck =>
    dsimp only [form?,luacheckLine?]
    repeat refine bind_gives fun _ => ?_
    split
    all_goals
      repeat refine bind_gives fun _ => ?_
      exact pure_gives ⟨readSigned_signed _,readSigned_signed _⟩
  | yamllint =>
    dsimp only [form?,yamllintLine?]
    repeat refine bind_gives fun _ => ?_
    exact pure_gives ⟨readSigned_signed _,readSigned_signed _⟩
  | dotenvLinter =>
    dsimp only [form?,dotenvLine?]
    repeat refine bind_gives fun _ => ?_
    exact pure_gives ⟨readSigned_signed _,none_bounded⟩
  | cpplint =>
    dsimp only [form?,cpplintLine?]
    repeat refine bind_gives fun _ => ?_
    exact pure_gives ⟨readSigned_signed _,none_bounded⟩
  | tombi =>
    dsimp only [form?,Tombi.header?]
    repeat refine bind_gives fun _ => ?_
    exact pure_gives ⟨none_bounded,none_bounded⟩

theorem extend_bounded (line : List Char) (d : Diagnostic) (bounded : d.Bounded) :
    (Tombi.extend line d).Bounded := by
  rw [Tombi.extend]
  split
  · exact ⟨bind_readSigned_bounded _,bind_readSigned_bounded _⟩
  · exact ⟨bounded.line,bounded.column⟩

end TextReport

theorem Extractor.diagnostic?_bounded (e : Extractor) (item : Json) :
    ∀ d ∈ e.diagnostic? item, d.Bounded := by
  intro d found
  obtain ⟨message,_,rfl⟩ := Option.map_eq_some_iff.mp found
  exact ⟨bind_toInt?_bounded _,bind_toInt?_bounded _⟩

namespace OutputParser

theorem findings_bounded (parser : OutputParser) (root : Path) (output : String) :
    ∀ d ∈ parser.findings root output, d.Bounded := by
  intro d member
  cases parser with
  | extractor rules =>
    obtain ⟨item,_,found⟩ := List.mem_filterMap.mp member
    exact rules.diagnostic?_bounded item d found
  | json report =>
    obtain ⟨record,_,found⟩ := List.mem_flatMap.mp member
    exact report.recordDiagnostics_bounded root record d found
  | text report =>
    exact report.diagnostics_holds report.form_bounded (fun _ => TextReport.extend_bounded) output
      d member

/-- The form in JSON of a returned diagnostic holds its line and its column, where it has them. -/
theorem parse_places_shown (parser : OutputParser) (root : Path) (output : String)
    (d : Diagnostic) (member : d ∈ parser.parse root output) :
    (∀ n ∈ d.line, ∃ inRange, ("line",.num (.whole n inRange)) ∈ d.attributes) ∧
      ∀ n ∈ d.column, ∃ inRange, ("column",.num (.whole n inRange)) ∈ d.attributes :=
  (findings_bounded parser root output d (List.mem_filter.mp member).1).places_shown

end OutputParser
end LintTools
