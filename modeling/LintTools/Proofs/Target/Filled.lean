import LintTools.Proofs.Path.Anchoring
import LintTools.Proofs.Target.Source

/-! Targets that are empty texts. A relative path can cancel out, and then nothing is left of it in
normal form; whether a plan passes such a path on depends on the source it comes from. Texts of
settings are taken from the current directory before they are folded, discovered directories, the
directories of explicit files and the root are not. -/
namespace LintTools

namespace Path

def Vanishes (path : Path) : Prop := path.normalComponents = []

theorem eq_empty_iff (path : Path) : path = ⟨""⟩ ↔ path.components = [] := by
  rw [components_eq_nil]
  cases path
  simp

theorem normal_eq_empty (path : Path) : path.normal = ⟨""⟩ ↔ path.Vanishes := by
  rw [eq_empty_iff,normal_components,Vanishes]

theorem empty_vanishes : Vanishes ⟨""⟩ := rfl

/-- Only a path of one step, and no root, lies directly in what is written as nothing. -/
theorem normal_parent_eq_empty (path : Path) : path.normal.parent? = some ⟨""⟩ ↔
    ∃ c, c ≠ .root ∧ path.normalComponents = [c] := by
  have proper := normalComponents_proper path
  rw [parent?,normal_components]
  cases ending : path.normalComponents.getLast? with
  | none => simp [List.getLast?_eq_none_iff.mp ending]
  | some last =>
    obtain ⟨above,shape⟩ := List.getLast?_eq_some_iff.mp ending
    rw [shape] at proper ⊢
    have written := components_render _ proper.dropLast
    rw [List.dropLast_concat] at written ⊢
    have alone : (∃ c, c ≠ .root ∧ above ++ [last] = [c]) ↔ last ≠ .root ∧ above = [] := by
      constructor
      · rintro ⟨c,relative,single⟩
        obtain ⟨nothing,same⟩ := List.append_inj' (single.trans (List.nil_append [c]).symm) rfl
        exact ⟨List.singleton_inj.mp same ▸ relative,nothing⟩
      · rintro ⟨relative,rfl⟩
        exact ⟨last,relative,rfl⟩
    rw [alone]
    cases last with
    | root => simp
    | _ => simp [eq_empty_iff,written]

theorem append_eq_empty (base other : Path) : (base ++ other).text = "" ↔
    base.text = "" ∧ other.text = "" := by
  by_cases filled : base.text = ""
  · cases kind : other.isAbsolute with
    | true =>
      rw [append_of_absolute base other kind]
      simp [filled]
    | false =>
      have nothing := (components_eq_nil base).mpr filled
      rw [← components_eq_nil,components_append base other kind,if_pos nothing,components_eq_nil]
      simp [filled]
  · simp [filled,append_filled base other filled]

/-- A text means nothing only if there is nothing to begin with. -/
theorem resolve_eq_empty (s : Surroundings) (root : Path) (text : String)
    (current : s.currentDirectory.isAbsolute = true) : resolve s root text = ⟨""⟩ ↔
      root.text = "" ∧ (expandHome s text).text = "" := by
  rw [resolve,normal_eq_empty,← append_eq_empty]
  generalize root ++ expandHome s text = joined
  by_cases empty : joined.text = ""
  · have same : joined = ⟨""⟩ := by rw [eq_empty_iff,components_eq_nil,empty]
    have kept : absolute s joined = joined := by
      rw [absolute,if_pos (by simp [empty])]
    rw [kept,same]
    exact ⟨fun _ => rfl,fun _ => empty_vanishes⟩
  · rw [absolute_of_filled s joined empty]
    have whole := append_rooted s.currentDirectory joined current
    exact ⟨fun nothing => absurd nothing (normalComponents_filled _ whole),fun same => absurd same empty⟩

end Path

namespace TargetPlan
open LintTools.Path (Enumerates)
variable (plan : TargetPlan) (ctx : Context) (excluded : List Path)

/-- The ways in which a plan comes to name nothing. Of a discovered directory, the root itself is left
out; an explicit file is one that lies directly in a directory without a name. -/
inductive NamesNothing : Prop where
  | setting (name text : String) (listed : name ∈ plan.settings) (given : text ∈ ctx.settingTexts name)
    (unrooted : ctx.root.text = "") (empty : (Path.expandHome ctx.surroundings text).text = "")
  | discovered (directory : Path) (enabled : plan.includeRoots = true)
    (listed : directory ∈ ctx.config.discovery.roots) (cancelled : (ctx.anchor directory).Vanishes)
    (apart : ¬ctx.root.Vanishes)
  | explicit (file : Path) (enabled : plan.includeExplicit = true)
    (listed : file ∈ ctx.config.discovery.explicitFiles) (c : Path.Component) (relative : c ≠ .root)
    (single : (ctx.anchor file).normalComponents = [c])
  | root (enabled : plan.defaultToRoot = true) (cancelled : ctx.root.Vanishes)
    (unconfigured : ∀ path, ¬plan.FromConfiguration ctx excluded path)
    (unusable : ∀ text ∈ plan.fallback, ¬plan.Usable ctx excluded text)

theorem leavesOut_vanishing (path : Path) (vanishes : path.Vanishes) :
    plan.LeavesOut excluded path ↔ plan.LeavesOut excluded ⟨""⟩ :=
  plan.leavesOut_congr excluded path ⟨""⟩ (vanishes.trans Path.empty_vanishes.symm)

theorem fromFallback_absent : (∀ path, ¬plan.FromFallback ctx excluded path) ↔
    ∀ text ∈ plan.fallback, ¬plan.Usable ctx excluded text := by
  simp only [← firstFallback_iff,← Option.eq_none_iff_forall_ne_some,firstFallback_direct,
    Option.map_eq_none_iff,List.find?_eq_none,isUsable_iff]

section Surroundings
variable (current : ctx.surroundings.currentDirectory.isAbsolute = true)
include current

theorem meaning_eq_empty (text : String) : meaning ctx text = ⟨""⟩ ↔
    ctx.root.text = "" ∧ (Path.expandHome ctx.surroundings text).text = "" :=
  Path.resolve_eq_empty ctx.surroundings ctx.root text current

theorem fromFallback_filled (absent : ctx.surroundings.pathExists ⟨""⟩ = false) :
    ¬plan.FromFallback ctx excluded ⟨""⟩ := by
  rintro ⟨_,text,_,_,_,⟨usable,_⟩,same⟩
  have nothing := (meaning_eq_empty ctx current text).mp same.symm
  -- A single dot, the one fallback that need not exist, is no empty text.
  rcases usable with rfl | found
  · have dot : (Path.expandHome ctx.surroundings ".").text = "." := by
      rw [Path.expandHome]
      rfl
    rw [dot] at nothing
    exact absurd nothing.2 (by decide)
  · rw [← same,absent] at found
    exact Bool.noConfusion found

theorem namesNothing_of_configuration (given : plan.FromConfiguration ctx excluded ⟨""⟩) :
    ¬plan.LeavesOut excluded ⟨""⟩ ∧ plan.NamesNothing ctx excluded := by
  rcases given with ⟨⟨name,listed,text,given,same⟩,spared⟩ | ⟨enabled,⟨directory,listed,same⟩,apart,spared⟩ |
    ⟨enabled,⟨file,listed,same⟩,spared⟩
  · obtain ⟨unrooted,empty⟩ := (meaning_eq_empty ctx current text).mp same.symm
    exact ⟨spared,.setting name text listed given unrooted empty⟩
  · refine ⟨spared,.discovered directory enabled listed ((Path.normal_eq_empty _).mp same.symm) ?_⟩
    intro vanishes
    rw [Path.normal_components,vanishes] at apart
    exact apart rfl
  · obtain ⟨c,relative,single⟩ := (Path.normal_parent_eq_empty _).mp same
    exact ⟨spared,.explicit file enabled listed c relative single⟩

/-- The first source that gives any path gives the empty one exactly when the plan names nothing. -/
theorem inFirst_empty (absent : ctx.surroundings.pathExists ⟨""⟩ = false) :
    InFirst [plan.FromConfiguration ctx excluded,plan.FromFallback ctx excluded,
        plan.FromRoot ctx excluded] ⟨""⟩ ↔
      ¬plan.LeavesOut excluded ⟨""⟩ ∧ plan.NamesNothing ctx excluded := by
  have unusable := plan.fromFallback_filled ctx excluded current absent
  constructor
  · rintro (given | ⟨unconfigured,given | ⟨noFallback,⟨enabled,spared,same⟩ | ⟨_,none⟩⟩⟩)
    · exact plan.namesNothing_of_configuration ctx excluded current given
    · exact absurd given unusable
    · have vanishes := (Path.normal_eq_empty ctx.root).mp same.symm
      rw [plan.leavesOut_vanishing excluded ctx.root vanishes] at spared
      exact ⟨spared,.root enabled vanishes unconfigured
        ((plan.fromFallback_absent ctx excluded).mp noFallback)⟩
    · exact none.elim
  · rintro ⟨spared,names⟩
    cases names with
    | setting name text listed given unrooted empty =>
      have same := (meaning_eq_empty ctx current text).mpr ⟨unrooted,empty⟩
      exact .inl (.inl ⟨⟨name,listed,text,given,same.symm⟩,spared⟩)
    | discovered directory enabled listed cancelled apart =>
      have same := (Path.normal_eq_empty _).mpr cancelled
      refine .inl (.inr (.inl ⟨enabled,⟨directory,listed,same.symm⟩,?_,spared⟩))
      rw [Path.normal_components]
      exact fun nothing => apart nothing.symm
    | explicit file enabled listed c relative single =>
      have same := (Path.normal_parent_eq_empty _).mpr ⟨c,relative,single⟩
      exact .inl (.inr (.inr ⟨enabled,⟨file,listed,same⟩,spared⟩))
    | root enabled cancelled unconfigured unusable =>
      have same := (Path.normal_eq_empty _).mpr cancelled
      have noFallback := (plan.fromFallback_absent ctx excluded).mpr unusable
      rw [← plan.leavesOut_vanishing excluded ctx.root cancelled] at spared
      exact .inr ⟨unconfigured,.inr ⟨noFallback,.inl ⟨enabled,spared,same.symm⟩⟩⟩

end Surroundings

/-- Whatever is taken from an absolute root keeps that root. -/
theorem not_namesNothing_of_rooted (rooted : ctx.root.isAbsolute = true) :
    ¬plan.NamesNothing ctx excluded := by
  have taken (path : Path) : (ctx.anchor path).isAbsolute = true :=
    Path.append_rooted ctx.root path rooted
  intro names
  cases names with
  | setting name text listed given unrooted empty =>
    rw [← Path.components_eq_nil] at unrooted
    rw [Path.isAbsolute_iff,unrooted] at rooted
    cases rooted
  | discovered directory enabled listed cancelled apart =>
    exact Path.normalComponents_filled _ (taken directory) cancelled
  | explicit file enabled listed c relative single =>
    have first := (Path.isAbsolute_iff_normal _).mp (taken file)
    rw [single] at first
    exact relative (Option.some.inj first)
  | root enabled cancelled unconfigured unusable =>
    exact Path.normalComponents_filled _ rooted cancelled

theorem filled_iff (paths : List Path) :
    (∀ path ∈ paths, path.text ≠ "") ↔ ⟨""⟩ ∉ paths := by
  constructor
  · intro filled member
    exact filled _ member rfl
  · intro missing path member empty
    have same : path = ⟨""⟩ := by rw [Path.eq_empty_iff,Path.components_eq_nil,empty]
    exact missing (same ▸ member)

/-- The targets that are not copied from the caller's files are no empty texts, exactly when the plan
does not come to name nothing or an exclusion that vanishes takes the empty target away. An absolute
root is always enough. -/
theorem targets_filled_iff (resolver : Resolver)
    (reached : Resolver.Reached ctx.surroundings resolver)
    (current : ctx.surroundings.currentDirectory.isAbsolute = true)
    (absent : ctx.surroundings.pathExists ⟨""⟩ = false) :
    ∃ copied own : List Path,
      ((plan.targets (Resolver.lookup ctx.surroundings) ctx excluded).run resolver).1 =
        copied.map (·.text) ++ plan.led own ∧
      Enumerates copied (plan.FromCaller ctx excluded) ∧ (copied ≠ [] → own = []) ∧
      ((∀ path ∈ own, path.text ≠ "") ↔
        ¬(copied = [] ∧ ¬plan.LeavesOut excluded ⟨""⟩ ∧ plan.NamesNothing ctx excluded)) ∧
      (ctx.root.isAbsolute = true → ∀ path ∈ own, path.text ≠ "") := by
  have answers := targets_answers (Resolver.lookup_resolves ctx.surroundings) plan ctx excluded
  have files := callerFiles_enumerate plan ctx excluded
  have members := (ownTargets_first plan ctx excluded).2 ⟨""⟩
  rw [plan.inFirst_empty ctx excluded current absent] at members
  rw [(answers resolver reached.honest).1,targets_direct]
  cases given : plan.callerFiles ctx excluded with
  | cons first others =>
    rw [given] at files
    exact ⟨first :: others,[],(List.append_nil _).symm,files,fun _ => rfl,by simp,by simp⟩
  | nil =>
    rw [given] at files
    refine ⟨[],_,rfl,files,fun filled => absurd rfl filled,?_,?_⟩
    · rw [filled_iff,members]
      simp only [true_and]
    · intro rooted
      rw [filled_iff,members]
      exact fun names => plan.not_namesNothing_of_rooted ctx excluded rooted names.2

def discoveryPlan : TargetPlan where
  settings := []
  includeRoots := true
  includeExplicit := true
  fallback := []
  defaultToRoot := true
  filterExcluded := true
  leader := some "--in"

def dottedRun : Context where
  root := ⟨"."⟩
  settings := []
  config := { Config.stock with discovery := ⟨[⟨"."⟩,⟨"src"⟩],[],[⟨"setup.py"⟩]⟩ }
  files := []
  surroundings := ⟨none,⟨"/work"⟩,fun _ => false⟩

theorem dottedRun_filled_iff :
    Resolver.Reached dottedRun.surroundings (Resolver.fresh 8) ∧
      dottedRun.surroundings.currentDirectory.isAbsolute = true ∧
      dottedRun.surroundings.pathExists ⟨""⟩ = false ∧
      ∃ copied own : List Path,
        ((discoveryPlan.targets (Resolver.lookup dottedRun.surroundings) dottedRun
          [⟨"/work/build"⟩]).run (Resolver.fresh 8)).1 =
            copied.map (·.text) ++ discoveryPlan.led own ∧
        ((∀ path ∈ own, path.text ≠ "") ↔ ¬(copied = [] ∧
          ¬discoveryPlan.LeavesOut [⟨"/work/build"⟩] ⟨""⟩ ∧
          discoveryPlan.NamesNothing dottedRun [⟨"/work/build"⟩])) := by
  have current : dottedRun.surroundings.currentDirectory.isAbsolute = true := rfl
  have absent : dottedRun.surroundings.pathExists ⟨""⟩ = false := rfl
  have reached : Resolver.Reached dottedRun.surroundings (Resolver.fresh 8) := .fresh 8
  obtain ⟨copied,own,listed,_,_,filled,_⟩ := targets_filled_iff discoveryPlan dottedRun
    [⟨"/work/build"⟩] (Resolver.fresh 8) reached current absent
  exact ⟨reached,current,absent,copied,own,listed,filled⟩

def defaultPlan : TargetPlan where
  settings := []
  includeRoots := false
  includeExplicit := false
  fallback := []
  defaultToRoot := true
  filterExcluded := true
  leader := none

/-- The root as the only target of a run in the current directory. -/
theorem dottedRoot_empty : read (.obj [("defaultToRoot",.bool true)]) "plan" = .ok defaultPlan ∧
    dottedRun.files = [] ∧
    ((defaultPlan.targets (Resolver.lookup dottedRun.surroundings) dottedRun []).run
      (Resolver.fresh 8)).1 = [""] :=
  ⟨rfl,rfl,by decide +kernel⟩

end TargetPlan
end LintTools
