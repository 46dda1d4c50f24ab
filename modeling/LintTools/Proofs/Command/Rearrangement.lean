import LintTools.Proofs.Command.Exclusion
import LintTools.Proofs.Invocation.Rearrangement

/-! Commands of project scanners do not depend on how lists are arranged. Excluded paths count by
their components and are named in order; targets come in path order, and all but the caller's files
are written in their shortest form, so the set of paths alone decides them. -/
namespace LintTools

namespace Context.Rearranged
variable {read : String → Prop} {ctx other : Context} (rearranged : ctx.Rearranged read other)
include rearranged

theorem meaning : TargetPlan.meaning ctx = TargetPlan.meaning other := by
  funext text
  rw [TargetPlan.meaning,TargetPlan.meaning,rearranged.root,rearranged.surroundings]

theorem anchor : ctx.anchor = other.anchor := by
  funext path
  rw [Context.anchor,Context.anchor,rearranged.root]

/-- Settings name the same paths. -/
theorem named (names : List String) (path : Path) :
    (∃ name ∈ names, ∃ text ∈ ctx.settingTexts name, path = TargetPlan.meaning ctx text) ↔
      ∃ name ∈ names, ∃ text ∈ other.settingTexts name, path = TargetPlan.meaning other text := by
  rw [rearranged.meaning]
  exact exists_congr fun name => and_congr_right fun _ =>
    (rearranged.settingTexts name).exists_iff fun text => path = TargetPlan.meaning other text

end Context.Rearranged

namespace TargetPlan
open LintTools.Path (Enumerates)
variable {read : String → Prop} {ctx other : Context} (rearranged : ctx.Rearranged read other)
  {excluded left : List Path}
  (alike : SameElements (excluded.map Path.components) (left.map Path.components))
  (plan : TargetPlan)

include alike in
theorem leavesOut_rearranged (path : Path) :
    plan.LeavesOut excluded path ↔ plan.LeavesOut left path := by
  refine and_congr_right fun _ => Path.exists_iff_of_components alike _ fun base again same => ?_
  rw [Path.normalComponents_congr base again same]

include rearranged alike

theorem fromCaller_rearranged (path : Path) :
    plan.FromCaller ctx excluded path ↔ plan.FromCaller other left path := by
  rw [FromCaller,FromCaller,rearranged.anchor,leavesOut_rearranged alike,rearranged.files path]

theorem fromConfiguration_rearranged (path : Path) :
    plan.FromConfiguration ctx excluded path ↔ plan.FromConfiguration other left path := by
  have settings := rearranged.named plan.settings path
  have roots := rearranged.roots.exists_iff fun directory => path = (other.anchor directory).normal
  have files := rearranged.explicitFiles.exists_iff fun file =>
    (other.anchor file).normal.parent? = some path
  simp only [FromConfiguration,FromSettings,FromDiscoveredRoots,FromExplicitFiles,settings,roots,
    files,leavesOut_rearranged alike,rearranged.anchor,rearranged.root]

theorem fromFallback_rearranged (path : Path) :
    plan.FromFallback ctx excluded path ↔ plan.FromFallback other left path := by
  have usable (text : String) : plan.Usable ctx excluded text ↔ plan.Usable other left text := by
    rw [Usable,Usable,leavesOut_rearranged alike,rearranged.meaning,rearranged.surroundings]
  simp only [FromFallback,usable,rearranged.meaning]

theorem fromRoot_rearranged (path : Path) :
    plan.FromRoot ctx excluded path ↔ plan.FromRoot other left path := by
  rw [FromRoot,FromRoot,leavesOut_rearranged alike,rearranged.root]

theorem ownTargets_rearranged :
    (plan.ownTargets (PathLookup.direct ctx.surroundings) ctx excluded).run =
      (plan.ownTargets (PathLookup.direct other.surroundings) other left).run := by
  obtain ⟨sorted,members⟩ := ownTargets_first plan ctx excluded
  obtain ⟨otherSorted,otherMembers⟩ := ownTargets_first plan other left
  apply eq_of_ascending _ _ sorted otherSorted
  intro path
  rw [members,otherMembers]
  simp only [InFirst,fromConfiguration_rearranged rearranged alike,
    fromFallback_rearranged rearranged alike,fromRoot_rearranged rearranged alike]

theorem callerFiles_rearranged
    (spelled : ∀ p ∈ ctx.files, ∀ q ∈ ctx.files, p.components = q.components → p = q) :
    plan.callerFiles ctx excluded = plan.callerFiles other left := by
  have enumerated := callerFiles_enumerate plan ctx excluded
  have again := (callerFiles_enumerate plan other left).congr fun path =>
    (fromCaller_rearranged rearranged alike plan path).symm
  exact enumerated.unique again fun p q given otherGiven => spelled p given.1 q otherGiven.1

theorem targets_rearranged
    (spelled : ∀ p ∈ ctx.files, ∀ q ∈ ctx.files, p.components = q.components → p = q) :
    (plan.targets (PathLookup.direct ctx.surroundings) ctx excluded).run =
      (plan.targets (PathLookup.direct other.surroundings) other left).run := by
  rw [targets_direct,targets_direct,callerFiles_rearranged rearranged alike plan spelled,
    ownTargets_rearranged rearranged alike]

end TargetPlan

namespace ProjectScanner

def OptionReads (scanner : ProjectScanner) (name : String) : Prop :=
  ∃ option ∈ scanner.options, option.Reads name

/-- Names of excluded paths depend on their components only. -/
theorem excludeNames_congr (root path again : Path) (same : path.components = again.components) :
    excludeNames root path = excludeNames root again := by
  have normal : path.normal = again.normal := by
    rw [Path.normal,Path.normal,Path.normalComponents_congr path again same]
  rw [excludeNames,excludeNames,normal]

section Parts
variable {read : String → Prop} {ctx other : Context} (rearranged : ctx.Rearranged read other)
include rearranged

theorem leftOut_rearranged (scanner : ProjectScanner) (path : Path) :
    scanner.LeftOut ctx path ↔ scanner.LeftOut other path := by
  have named := rearranged.named scanner.excludeSettings path
  have found := rearranged.excludes.exists_iff fun directory => path = other.anchor directory
  rw [LeftOut,LeftOut,named,rearranged.anchor,found]

theorem excluded_rearranged (scanner : ProjectScanner) :
    SameElements
      ((scanner.excluded (PathLookup.direct ctx.surroundings) ctx).run.map Path.components)
      ((scanner.excluded (PathLookup.direct other.surroundings) other).run.map Path.components) := by
  have again := (excluded_enumerates scanner other).congr fun path =>
    (leftOut_rearranged rearranged scanner path).symm
  intro components
  rw [(excluded_enumerates scanner ctx).mem_components,again.mem_components]

theorem exclusion_rearranged (scanner : ProjectScanner) {excluded left : List Path}
    (alike : SameElements (excluded.map Path.components) (left.map Path.components)) :
    scanner.exclusion ctx excluded = scanner.exclusion other left := by
  have names : excludeArguments excluded other.root = excludeArguments left other.root := by
    refine sortedTexts_congr _ _ fun text => ?_
    rw [List.mem_flatMap,List.mem_flatMap]
    refine Path.exists_iff_of_components alike _ fun path again same => ?_
    rw [excludeNames_congr other.root path again same]
  rw [exclusion,exclusion,rearranged.root,names]

/-- The targets of a scanner, with a plan or without one. -/
theorem scannerTargets_rearranged (scanner : ProjectScanner) {excluded left : List Path}
    (alike : SameElements (excluded.map Path.components) (left.map Path.components))
    (spelled : ∀ p ∈ ctx.files, ∀ q ∈ ctx.files, p.components = q.components → p = q) :
    (scanner.targets (PathLookup.direct ctx.surroundings) ctx excluded).run =
      (scanner.targets (PathLookup.direct other.surroundings) other left).run := by
  rw [targets,targets]
  cases scanner.plan with
  | none => rfl
  | some plan => exact TargetPlan.targets_rearranged rearranged alike plan spelled

end Parts

/-- A command does not depend on the order of the caller's files, of the lists of discovery, and of
the settings that no option reads, nor on how often their elements are repeated, as long as equal
files of the caller are spelled alike. What the resolvers were asked before makes no difference. -/
theorem build_rearranged (scanner : ProjectScanner) (ctx other : Context)
    (resolver otherResolver : Resolver)
    (reached : Resolver.Reached ctx.surroundings resolver)
    (otherReached : Resolver.Reached other.surroundings otherResolver)
    (rearranged : ctx.Rearranged scanner.OptionReads other)
    (spelled : ∀ p ∈ ctx.files, ∀ q ∈ ctx.files, p.components = q.components → p = q) :
    ((scanner.build (Resolver.lookup ctx.surroundings) ctx).run resolver).1 =
      ((scanner.build (Resolver.lookup other.surroundings) other).run otherResolver).1 := by
  have resolves := Resolver.lookup_resolves ctx.surroundings
  have otherResolves := Resolver.lookup_resolves other.surroundings
  have built := (build_answers resolves scanner ctx resolver reached.honest).1
  have otherBuilt := (build_answers otherResolves scanner other _ otherReached.honest).1
  have alike := excluded_rearranged rearranged scanner
  have exclusion := exclusion_rearranged rearranged scanner alike
  have options := rearranged.allArguments (PathLookup.direct other.surroundings) scanner.options
    fun option member name reads => ⟨option,member,reads⟩
  have targets := scannerTargets_rearranged rearranged scanner alike spelled
  rw [built,otherBuilt]
  simp only [build,Id.run_bind,Id.run_pure]
  rw [exclusion,targets,rearranged.surroundings,options]

def leveledScanner : ProjectScanner :=
  { wideScanner with
    options := [⟨["level"],.value,some "--level",none,none,[],none,none,none⟩] }

def arrangedRun (excludes : List Json) (found files : List Path) : Context :=
  { root := ⟨"/repo"⟩
    settings := [("exclude",.arr excludes),("level",.str "high")]
    config := { Config.stock with discovery := ⟨[],found,[]⟩ }
    files
    surroundings := ⟨none,⟨"/"⟩,fun _ => false⟩ }

theorem arrangedRun_rearranged {excludes otherExcludes : List Json}
    {found otherFound files otherFiles : List Path} (excluded : SameElements excludes otherExcludes)
    (discovered : SameElements found otherFound) (selected : SameElements files otherFiles) :
    (arrangedRun excludes found files).Rearranged leveledScanner.OptionReads
      (arrangedRun otherExcludes otherFound otherFiles) := by
  constructor
  case root | surroundings | execution | complexity | severity | typeChecking => rfl
  case roots | explicitFiles => exact fun path => Iff.rfl
  case excludes => exact discovered
  case files => exact selected
  case fixed =>
    rintro name ⟨option,member,listed,given,spelled⟩
    obtain rfl := List.mem_singleton.mp member
    obtain rfl : listed = "level" := by simpa using given
    have level : name = "level" := by
      rcases spelled with same | dashed
      · exact same
      · exact dashed.trans rfl
    rw [level]
    rfl
  case settings =>
    intro name
    simp only [arrangedRun,Entries.get?,List.lookup_cons]
    cases name == "exclude" with
    | true => exact .list excludes otherExcludes excluded
    | false => exact .same _

theorem arrangedRun_build :
    let run := arrangedRun [.str "build",.str "dist"] [⟨"vendor"⟩,⟨"./cache"⟩] [⟨"b.py"⟩,⟨"a.py"⟩]
    let again := arrangedRun [.str "dist",.str "build",.str "dist"] [⟨"./cache"⟩,⟨"vendor"⟩]
      [⟨"a.py"⟩,⟨"b.py"⟩,⟨"a.py"⟩]
    Resolver.Reached run.surroundings (Resolver.fresh 4) ∧
      Resolver.Reached again.surroundings (Resolver.fresh 1) ∧
      run.Rearranged leveledScanner.OptionReads again ∧
      (∀ p ∈ run.files, ∀ q ∈ run.files, p.components = q.components → p = q) ∧
      ((leveledScanner.build (Resolver.lookup run.surroundings) run).run (Resolver.fresh 4)).1 =
        ((leveledScanner.build (Resolver.lookup again.surroundings) again).run
          (Resolver.fresh 1)).1 := by
  intro run again
  have reached := Resolver.Reached.fresh (s := run.surroundings) 4
  have otherReached := Resolver.Reached.fresh (s := again.surroundings) 1
  have rearranged : run.Rearranged leveledScanner.OptionReads again := by
    apply arrangedRun_rearranged <;> intro item <;> simp <;> tauto
  have spelled : ∀ p ∈ run.files, ∀ q ∈ run.files, p.components = q.components → p = q := by
    decide
  exact ⟨reached,otherReached,rearranged,spelled,
    build_rearranged leveledScanner run again _ _ reached otherReached rearranged spelled⟩

end ProjectScanner
end LintTools
