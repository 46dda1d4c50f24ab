import LintTools.Proofs.Command.Sharing
import LintTools.Proofs.Path.Anchoring
import LintTools.Proofs.Path.Below

/-! What a project scanner leaves out. The exclusion arguments name the excluded paths and nothing
else, by themselves and by their part below the root, and no target lies under a path that they
name. Both are read from one root, so the two ways of spelling a path agree. -/
namespace LintTools

namespace ProjectScanner
open LintTools.Path (Component render normal_isAbsolute)
open LintTools.TargetPlan (meaning)

def belowText (rest : List Component) : String := if rest = [] then "." else (render rest).text

section Names
variable (root path : Path) (rooted : root.isAbsolute = true) (absolute : path.isAbsolute = true)
include rooted absolute

theorem render_below_empty (rest : List Component)
    (under : path.normalComponents = root.normalComponents ++ rest) :
    (render rest).text.isEmpty = decide (rest = []) := by
  obtain ⟨names,shape,_,inner⟩ := Path.normalComponents_names path absolute
  obtain ⟨rootNames,rootShape,_⟩ := Path.normalComponents_names root rooted
  have split : names = rootNames ++ rest := by
    rw [shape,rootShape,List.cons_append] at under
    exact (List.cons.inj under).2
  have restInner : ∀ c ∈ rest, c.Inner := fun c member => inner c (by simp [split,member])
  have read := Path.components_render rest (.relative rest restInner)
  rw [Bool.eq_iff_iff,String.isEmpty_iff,decide_eq_true_eq,← Path.components_eq_nil,read]

theorem excludeNames_under (rest : List Component)
    (under : path.normalComponents = root.normalComponents ++ rest) :
    excludeNames root path = [path.normal.text,belowText rest] := by
  rw [excludeNames,Path.below?_under path root absolute rooted rest under]
  simp only [render_below_empty root path rooted absolute rest under,belowText,decide_eq_true_eq]

theorem excludeNames_outside (outside : path.isUnder root = false) :
    excludeNames root path = [path.normal.text] := by
  rw [excludeNames,Path.below?_outside path root absolute rooted outside]

/-- A name of an excluded path, taken from the root, is that path. -/
theorem excludeNames_mean (name : String) (named : name ∈ excludeNames root path) :
    (root ++ (⟨name⟩ : Path)).normal = path.normal := by
  have whole : (root ++ path.normal).normal = path.normal := by
    have normal : path.normal.isAbsolute = true := by rw [normal_isAbsolute,absolute]
    rw [Path.append_of_absolute root _ normal,Path.normal_normal]
  cases place : path.isUnder root with
  | false =>
    rw [excludeNames_outside root path rooted absolute place,List.mem_singleton] at named
    rw [named]
    exact whole
  | true =>
    obtain ⟨rest,under⟩ := (Path.isUnder_iff path root).mp place
    rw [excludeNames_under root path rooted absolute rest under.symm] at named
    rcases List.mem_cons.mp named with same | same
    · rw [same]
      exact whole
    · rw [List.mem_singleton.mp same,belowText]
      split
      · rename_i empty
        rw [empty,List.append_nil] at under
        rw [Path.normal,Path.normalComponents_append root ⟨"."⟩ rfl,Path.normal,← under]
        exact congrArg render (List.reverse_reverse _)
      · exact Path.append_below path root absolute rooted rest under.symm

end Names

def LeftOut (scanner : ProjectScanner) (ctx : Context) (path : Path) : Prop :=
  (∃ name ∈ scanner.excludeSettings, ∃ text ∈ ctx.settingTexts name, path = meaning ctx text) ∨
    scanner.includeDiscovery = true ∧
      ∃ directory ∈ ctx.config.discovery.excludes, path = ctx.anchor directory

theorem excluded_direct (scanner : ProjectScanner) (ctx : Context) :
    (scanner.excluded (PathLookup.direct ctx.surroundings) ctx).run =
      Path.addAll
        (Path.distinct ((scanner.excludeSettings.flatMap ctx.settingTexts).map (meaning ctx)))
        (if scanner.includeDiscovery then ctx.config.discovery.excludes.map ctx.anchor else []) := by
  simp only [excluded,Id.run_bind,List.idRun_mapM,PathLookup.direct_resolve,Id.run_pure]
  rfl

theorem excluded_enumerates (scanner : ProjectScanner) (ctx : Context) :
    Path.Enumerates (scanner.excluded (PathLookup.direct ctx.surroundings) ctx).run
      (scanner.LeftOut ctx) := by
  rw [excluded_direct]
  refine ((Path.distinct_enumerates _).addAll _).congr ?_
  intro path
  rw [TargetPlan.mem_named,LeftOut]
  cases scanner.includeDiscovery with
  | true => simp [@eq_comm _ path]
  | false => simp

theorem leftOut_rooted (scanner : ProjectScanner) (ctx : Context)
    (rooted : ctx.root.isAbsolute = true) (path : Path) (left : scanner.LeftOut ctx path) :
    path.isAbsolute = true := by
  rcases left with ⟨_,_,text,_,same⟩ | ⟨_,directory,_,same⟩
  · rw [same,meaning]
    exact Path.resolve_rooted ctx.surroundings ctx.root text rooted
  · rw [same]
    exact Path.append_rooted ctx.root directory rooted

end ProjectScanner

namespace TargetPlan

def chosen (plan : TargetPlan) (ctx : Context) (excluded : List Path) : List Path :=
  if !(plan.callerFiles ctx excluded).isEmpty then plan.callerFiles ctx excluded
  else (plan.ownTargets (PathLookup.direct ctx.surroundings) ctx excluded).run

def lead (plan : TargetPlan) (ctx : Context) (excluded : List Path) : List String :=
  if !(plan.callerFiles ctx excluded).isEmpty then [] else plan.leader.toList

theorem targets_chosen (plan : TargetPlan) (ctx : Context) (excluded : List Path) :
    (plan.targets (PathLookup.direct ctx.surroundings) ctx excluded).run =
      (plan.chosen ctx excluded).flatMap fun target => plan.lead ctx excluded ++ [target.text] := by
  rw [targets_direct,chosen,lead]
  split
  · exact List.map_eq_flatMap
  · rfl

theorem inFirst_some (sources : List (Path → Prop)) (path : Path) (given : InFirst sources path) :
    ∃ source ∈ sources, source path := by
  induction sources with
  | nil => exact False.elim given
  | cons source later ih =>
    rcases given with here | ⟨_,behind⟩
    · exact ⟨source,List.mem_cons_self,here⟩
    · obtain ⟨other,listed,there⟩ := ih behind
      exact ⟨other,List.mem_cons_of_mem source listed,there⟩

/-- No target is left out when it is taken from the root. -/
theorem chosen_spared (plan : TargetPlan) (ctx : Context) (excluded : List Path)
    (rooted : ctx.root.isAbsolute = true) (target : Path)
    (member : target ∈ plan.chosen ctx excluded) :
    ¬plan.LeavesOut excluded (ctx.anchor target) := by
  have alone (path : Path) (absolute : path.isAbsolute = true) : ctx.anchor path = path :=
    Path.append_of_absolute ctx.root path absolute
  have resolved (text : String) : (meaning ctx text).isAbsolute = true := by
    rw [meaning]
    exact Path.resolve_rooted ctx.surroundings ctx.root text rooted
  have anchored (path : Path) : (ctx.anchor path).isAbsolute = true :=
    Path.append_rooted ctx.root path rooted
  rw [chosen] at member
  split at member
  · exact ((callerFiles_enumerate plan ctx excluded).sound target member).2
  · have given := ((ownTargets_first plan ctx excluded).2 target).mp member
    obtain ⟨source,listed,given⟩ := inFirst_some _ target given
    simp only [List.mem_cons,List.not_mem_nil,or_false] at listed
    rcases listed with rfl | rfl | rfl
    · rcases given with settings | roots | files
      · obtain ⟨⟨_,_,text,_,same⟩,spared⟩ := settings
        rwa [alone target (same ▸ resolved text)]
      · obtain ⟨_,⟨directory,_,same⟩,_,spared⟩ := roots
        have absolute : target.isAbsolute = true := by
          rw [same,Path.normal_isAbsolute]
          exact anchored directory
        rwa [alone target absolute]
      · obtain ⟨_,⟨file,_,found⟩,spared⟩ := files
        have whole : (ctx.anchor file).normal.isAbsolute = true := by
          rw [Path.normal_isAbsolute]
          exact anchored file
        have absolute := Path.parent_rooted _ target whole found
        rwa [alone target absolute]
    · obtain ⟨_,text,_,_,_,⟨_,spared⟩,same⟩ := given
      rw [same,alone _ (resolved text)]
      exact spared
    · obtain ⟨_,spared,same⟩ := given
      have absolute : target.isAbsolute = true := by rw [same,Path.normal_isAbsolute,rooted]
      rw [alone target absolute,same,
        leavesOut_congr plan excluded _ ctx.root (Path.normal_normalComponents ctx.root)]
      exact spared

end TargetPlan
structure ProjectScanner.Agrees (ctx : Context) (excluded : List Path) (arguments : List String)
    (targets : List Path) : Prop where
  sound : ∀ argument ∈ arguments, ∃ path ∈ excluded,
    (ctx.anchor ⟨argument⟩).normal = path.normal
  absolute : ∀ path ∈ excluded, path.normal.isAbsolute = true ∧ path.normal.text ∈ arguments
  relative : ∀ path ∈ excluded, ∀ rest,
    path.normalComponents = ctx.root.normalComponents ++ rest → belowText rest ∈ arguments
  spared : ∀ target ∈ targets, ∀ argument ∈ arguments,
    (ctx.anchor target).isUnder (ctx.anchor ⟨argument⟩) = false

namespace ProjectScanner
open LintTools.Path (normal_isAbsolute)

theorem mem_excludeArguments (excluded : List Path) (root : Path) (argument : String) :
    argument ∈ excludeArguments excluded root ↔
      ∃ path ∈ excluded, argument ∈ excludeNames root path := by
  rw [excludeArguments,mem_sortedTexts,List.mem_flatMap]

theorem build_direct (scanner : ProjectScanner) (plan : TargetPlan)
    (planned : scanner.plan = some plan) (ctx : Context) :
    let excluded := (scanner.excluded (PathLookup.direct ctx.surroundings) ctx).run
    (scanner.build (PathLookup.direct ctx.surroundings) ctx).run =
      scanner.base ++ scanner.exclusion ctx excluded ++
        (CommandOption.allArguments (PathLookup.direct ctx.surroundings) ctx scanner.options).run ++
        (plan.targets (PathLookup.direct ctx.surroundings) ctx excluded).run := by
  simp only [build,targets,planned,Id.run_bind,Id.run_pure]

/-- Excluded paths that are absolute are named, and kept out of the targets, alike. -/
theorem agrees_of_absolute (plan : TargetPlan) (ctx : Context) (excluded : List Path)
    (filters : plan.filterExcluded = true) (rooted : ctx.root.isAbsolute = true)
    (absolute : ∀ path ∈ excluded, path.isAbsolute = true) :
    Agrees ctx excluded (excludeArguments excluded ctx.root) (plan.chosen ctx excluded) := by
  have sound (argument : String) (named : argument ∈ excludeArguments excluded ctx.root) :
      ∃ path ∈ excluded, (ctx.anchor ⟨argument⟩).normal = path.normal := by
    obtain ⟨path,member,inside⟩ := (mem_excludeArguments excluded ctx.root argument).mp named
    have meant := excludeNames_mean ctx.root path rooted (absolute path member) argument inside
    exact ⟨path,member,meant⟩
  constructor
  case sound => exact sound
  case absolute =>
    intro path member
    have first : path.normal.text ∈ excludeNames ctx.root path := List.mem_cons_self
    refine ⟨by rw [normal_isAbsolute,absolute path member],?_⟩
    exact (mem_excludeArguments excluded ctx.root _).mpr ⟨path,member,first⟩
  case relative =>
    intro path member rest under
    have second : belowText rest ∈ excludeNames ctx.root path := by
      rw [excludeNames_under ctx.root path rooted (absolute path member) rest under]
      simp
    exact (mem_excludeArguments excluded ctx.root _).mpr ⟨path,member,second⟩
  case spared =>
    intro target member argument named
    obtain ⟨path,left,same⟩ := sound argument named
    have meant : (ctx.anchor ⟨argument⟩).normalComponents = path.normalComponents := by
      rw [← Path.normal_components,same,Path.normal_components]
    have spared := plan.chosen_spared ctx excluded rooted target member
    rw [← Bool.not_eq_true,Path.isUnder_iff,meant]
    exact fun under => spared ⟨filters,path,left,under⟩

/-- With an absolute root the exclusion arguments and the targets of a built command agree. What
the resolver was asked before makes no difference. -/
theorem exclusion_agrees (scanner : ProjectScanner) (plan : TargetPlan) (ctx : Context)
    (resolver : Resolver) (planned : scanner.plan = some plan)
    (filters : plan.filterExcluded = true) (rooted : ctx.root.isAbsolute = true)
    (reached : Resolver.Reached ctx.surroundings resolver) :
    let excluded := ((scanner.excluded (Resolver.lookup ctx.surroundings) ctx).run resolver).1
    let targets := plan.chosen ctx excluded
    Agrees ctx excluded (excludeArguments excluded ctx.root) targets ∧
      ((scanner.build (Resolver.lookup ctx.surroundings) ctx).run resolver).1 =
        scanner.base ++ scanner.exclusion ctx excluded ++
          (CommandOption.allArguments (PathLookup.direct ctx.surroundings) ctx
            scanner.options).run ++
          targets.flatMap fun target => plan.lead ctx excluded ++ [target.text] := by
  have resolves := Resolver.lookup_resolves ctx.surroundings
  have left := (excluded_answers resolves scanner ctx resolver reached.honest).1
  have built := (build_answers resolves scanner ctx resolver reached.honest).1
  have enumerated := excluded_enumerates scanner ctx
  have direct := build_direct scanner plan planned ctx
  have agreed := agrees_of_absolute plan ctx _ filters rooted fun path member =>
    leftOut_rooted scanner ctx rooted path (enumerated.sound path member)
  rw [left,built]
  dsimp only at direct ⊢
  rw [direct,TargetPlan.targets_chosen]
  exact ⟨agreed,rfl⟩

def callerPlan : TargetPlan :=
  { settings := []
    includeRoots := false
    includeExplicit := false
    fallback := []
    defaultToRoot := true
    filterExcluded := true
    leader := none }

def wideScanner : ProjectScanner :=
  { base := ["scan"]
    options := []
    excludeSettings := ["exclude"]
    includeDiscovery := true
    excludeFlag := some "--exclude"
    separator := ","
    plan := some callerPlan }

def dottedRun : Context :=
  { root := ⟨"/repo/."⟩
    settings := [("exclude",.arr [.str "./gen/../build",.str "../cache"])]
    config := { Config.stock with discovery := ⟨[],[⟨"src/.."⟩],[]⟩ }
    files := [⟨"build/../build/a.py"⟩,⟨"/tmp/b.py"⟩]
    surroundings := ⟨none,⟨"/"⟩,fun _ => false⟩ }

theorem dottedRun_agrees :
    let resolver := Resolver.fresh 4
    let excluded := ((wideScanner.excluded (Resolver.lookup dottedRun.surroundings) dottedRun).run
      resolver).1
    let targets := callerPlan.chosen dottedRun excluded
    wideScanner.plan = some callerPlan ∧ callerPlan.filterExcluded = true ∧
      dottedRun.root.isAbsolute = true ∧ Resolver.Reached dottedRun.surroundings resolver ∧
      Agrees dottedRun excluded (excludeArguments excluded dottedRun.root) targets ∧
      ((wideScanner.build (Resolver.lookup dottedRun.surroundings) dottedRun).run resolver).1 =
        wideScanner.base ++ wideScanner.exclusion dottedRun excluded ++
          (CommandOption.allArguments (PathLookup.direct dottedRun.surroundings) dottedRun
            wideScanner.options).run ++
          targets.flatMap fun target => callerPlan.lead dottedRun excluded ++ [target.text] :=
  have rooted : dottedRun.root.isAbsolute = true := by decide
  have reached := Resolver.Reached.fresh 4
  ⟨rfl,rfl,rooted,reached,
    exclusion_agrees wideScanner callerPlan dottedRun (Resolver.fresh 4) rfl rfl rooted reached⟩

end ProjectScanner
end LintTools
