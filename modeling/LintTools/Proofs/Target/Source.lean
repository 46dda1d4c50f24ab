import LintTools.Target.Plan
import LintTools.Proofs.Path.Enumeration
import LintTools.Proofs.Path.Sharing

/-! Where the targets of a scanner come from. Each source is stated as the set of paths it gives,
after exclusion; the targets are the first source that gives any, in path order. -/
namespace LintTools.TargetPlan
open LintTools.Path (Ascending Enumerates)

def LeavesOut (plan : TargetPlan) (excluded : List Path) (path : Path) : Prop :=
  plan.filterExcluded = true ∧ ∃ base ∈ excluded, base.normalComponents <+: path.normalComponents

section Sources
variable (plan : TargetPlan) (ctx : Context) (excluded : List Path)

def meaning (ctx : Context) (text : String) : Path := Path.resolve ctx.surroundings ctx.root text

def FromCaller (path : Path) : Prop :=
  path ∈ ctx.files ∧ ¬plan.LeavesOut excluded (ctx.anchor path)

def FromSettings (path : Path) : Prop :=
  (∃ name ∈ plan.settings, ∃ text ∈ ctx.settingTexts name, path = meaning ctx text) ∧
    ¬plan.LeavesOut excluded path

def FromDiscoveredRoots (path : Path) : Prop :=
  plan.includeRoots = true ∧
    (∃ directory ∈ ctx.config.discovery.roots, path = (ctx.anchor directory).normal) ∧
    path.components ≠ ctx.root.normal.components ∧ ¬plan.LeavesOut excluded path

def FromExplicitFiles (path : Path) : Prop :=
  plan.includeExplicit = true ∧
    (∃ file ∈ ctx.config.discovery.explicitFiles, (ctx.anchor file).normal.parent? = some path) ∧
    ¬plan.LeavesOut excluded path

def FromConfiguration (path : Path) : Prop :=
  plan.FromSettings ctx excluded path ∨ plan.FromDiscoveredRoots ctx excluded path ∨
    plan.FromExplicitFiles ctx excluded path

def Usable (text : String) : Prop :=
  (text = "." ∨ ctx.surroundings.pathExists (meaning ctx text) = true) ∧
    ¬plan.LeavesOut excluded (meaning ctx text)

def FromFallback (path : Path) : Prop :=
  ∃ before text after, plan.fallback = before ++ text :: after ∧
    (∀ earlier ∈ before, ¬plan.Usable ctx excluded earlier) ∧ plan.Usable ctx excluded text ∧
    path = meaning ctx text

def FromRoot (path : Path) : Prop :=
  plan.defaultToRoot = true ∧ ¬plan.LeavesOut excluded ctx.root ∧ path = ctx.root.normal

end Sources

def InFirst : List (Path → Prop) → Path → Prop
  | [], _ => False
  | source :: later, path => source path ∨ (∀ other, ¬source other) ∧ InFirst later path

theorem isExcluded_iff (plan : TargetPlan) (excluded : List Path) (path : Path) :
    plan.isExcluded excluded path = true ↔ plan.LeavesOut excluded path := by
  simp only [isExcluded,LeavesOut,Path.isUnderAny,Path.isUnder,Bool.and_eq_true,List.any_eq_true,
    List.isPrefixOf_iff_prefix]

theorem not_isExcluded_iff (plan : TargetPlan) (excluded : List Path) (path : Path) :
    (!plan.isExcluded excluded path) = true ↔ ¬plan.LeavesOut excluded path := by
  rw [Bool.not_eq_true',← Bool.not_eq_true,isExcluded_iff]

theorem leavesOut_congr (plan : TargetPlan) (excluded : List Path) (path other : Path)
    (same : path.normalComponents = other.normalComponents) :
    plan.LeavesOut excluded path ↔ plan.LeavesOut excluded other := by
  rw [LeavesOut,LeavesOut,same]

theorem callerFiles_enumerate (plan : TargetPlan) (ctx : Context) (excluded : List Path) :
    Enumerates (plan.callerFiles ctx excluded) (plan.FromCaller ctx excluded) := by
  refine (Path.distinct_enumerates _).congr ?_
  intro path
  rw [List.mem_filter,not_isExcluded_iff]
  exact Iff.rfl

theorem mem_discoveredRoots (plan : TargetPlan) (ctx : Context) (excluded : List Path)
    (path : Path) :
    path ∈ plan.discoveredRoots ctx excluded ↔ plan.FromDiscoveredRoots ctx excluded path := by
  unfold discoveredRoots FromDiscoveredRoots
  split
  · rename_i enabled
    simp only [enabled,List.mem_filter,List.mem_map,Bool.and_eq_true,bne_iff_ne,
      not_isExcluded_iff,Path.normal_components,true_and,@eq_comm _ path]
  · rename_i disabled
    simp [disabled]

theorem mem_explicitDirectories (plan : TargetPlan) (ctx : Context) (excluded : List Path)
    (path : Path) :
    path ∈ plan.explicitDirectories ctx excluded ↔ plan.FromExplicitFiles ctx excluded path := by
  unfold explicitDirectories FromExplicitFiles
  split
  · rename_i enabled
    simp only [enabled,List.mem_filter,List.mem_filterMap,not_isExcluded_iff,true_and]
  · rename_i disabled
    simp [disabled]

/-- The configured targets of a run that remembers nothing. -/
theorem configured_direct (plan : TargetPlan) (ctx : Context) (excluded : List Path) :
    (plan.configured (PathLookup.direct ctx.surroundings) ctx excluded).run =
      Path.addAll (Path.addAll
        (Path.distinct (((plan.settings.flatMap ctx.settingTexts).map (meaning ctx)).filter
          fun path => !plan.isExcluded excluded path))
        (plan.discoveredRoots ctx excluded)) (plan.explicitDirectories ctx excluded) := by
  simp only [configured,Id.run_bind,List.idRun_mapM,PathLookup.direct_resolve,Id.run_pure]
  rfl

theorem mem_named (settings : List String) (ctx : Context) (path : Path) :
    path ∈ (settings.flatMap ctx.settingTexts).map (meaning ctx) ↔
      ∃ name ∈ settings, ∃ text ∈ ctx.settingTexts name, path = meaning ctx text := by
  simp only [List.mem_map,List.mem_flatMap]
  constructor
  · rintro ⟨text,⟨name,listed,inside⟩,same⟩
    exact ⟨name,listed,text,inside,same.symm⟩
  · rintro ⟨name,listed,text,inside,same⟩
    exact ⟨text,⟨name,listed,inside⟩,same.symm⟩

theorem configured_enumerates (plan : TargetPlan) (ctx : Context) (excluded : List Path) :
    Enumerates (plan.configured (PathLookup.direct ctx.surroundings) ctx excluded).run
      (plan.FromConfiguration ctx excluded) := by
  rw [configured_direct]
  refine (((Path.distinct_enumerates _).addAll _).addAll _).congr ?_
  intro path
  rw [mem_discoveredRoots,mem_explicitDirectories,List.mem_filter,not_isExcluded_iff,mem_named,
    or_assoc]
  exact Iff.rfl

theorem meaning_tidy (ctx : Context) (text : String) : (meaning ctx text).Tidy := by
  rw [meaning,Path.resolve]
  exact Path.normal_tidy _

theorem configuration_tidy (plan : TargetPlan) (ctx : Context) (excluded : List Path) (path : Path)
    (given : plan.FromConfiguration ctx excluded path) : path.Tidy := by
  rcases given with ⟨⟨_,_,text,_,same⟩,_⟩ | ⟨_,⟨directory,_,same⟩,_⟩ | ⟨_,⟨file,_,found⟩,_⟩
  · exact same ▸ meaning_tidy ctx text
  · exact same ▸ Path.normal_tidy _
  · exact Path.parent_tidy _ path found

def isUsable (plan : TargetPlan) (ctx : Context) (excluded : List Path) (text : String) : Bool :=
  (text == "." || ctx.surroundings.pathExists (meaning ctx text)) &&
    !plan.isExcluded excluded (meaning ctx text)

theorem isUsable_iff (plan : TargetPlan) (ctx : Context) (excluded : List Path) (text : String) :
    plan.isUsable ctx excluded text = true ↔ plan.Usable ctx excluded text := by
  rw [isUsable,Usable,Bool.and_eq_true,Bool.or_eq_true,beq_iff_eq,not_isExcluded_iff]

theorem firstFallback_direct (plan : TargetPlan) (ctx : Context) (excluded : List Path)
    (texts : List String) :
    (plan.firstFallback? (PathLookup.direct ctx.surroundings) ctx excluded texts).run =
      (texts.find? (plan.isUsable ctx excluded)).map (meaning ctx) := by
  induction texts with
  | nil => rfl
  | cons text rest ih =>
    simp only [firstFallback?,Id.run_bind,PathLookup.direct_resolve,Id.run_pure]
    change Id.run (if plan.isUsable ctx excluded text = true then _ else _) = _
    cases usable : plan.isUsable ctx excluded text with
    | true =>
      rw [List.find?_cons_of_pos usable]
      rfl
    | false =>
      rw [List.find?_cons_of_neg (by simp [usable])]
      exact ih

theorem firstFallback_iff (plan : TargetPlan) (ctx : Context) (excluded : List Path) (path : Path) :
    (plan.firstFallback? (PathLookup.direct ctx.surroundings) ctx excluded plan.fallback).run =
      some path ↔ plan.FromFallback ctx excluded path := by
  rw [firstFallback_direct,Option.map_eq_some_iff]
  simp only [List.find?_eq_some_iff_append,Bool.not_eq_true',← Bool.not_eq_true,isUsable_iff]
  constructor
  · rintro ⟨text,⟨usable,before,after,shape,unusable⟩,same⟩
    exact ⟨before,text,after,shape,unusable,usable,same.symm⟩
  · rintro ⟨before,text,after,shape,unusable,usable,same⟩
    exact ⟨text,⟨usable,before,after,shape,unusable⟩,same.symm⟩

theorem inFirst_given (source : Path → Prop) (later : List (Path → Prop)) (given : Path)
    (present : source given) (path : Path) : InFirst (source :: later) path ↔ source path := by
  constructor
  · rintro (here | ⟨absent,_⟩)
    · exact here
    · exact absurd present (absent given)
  · exact .inl

theorem inFirst_absent (source : Path → Prop) (later : List (Path → Prop))
    (absent : ∀ other, ¬source other) (path : Path) :
    InFirst (source :: later) path ↔ InFirst later path := by
  constructor
  · rintro (here | ⟨_,behind⟩)
    · exact absurd here (absent path)
    · exact behind
  · exact fun behind => .inr ⟨absent,behind⟩

theorem ownTargets_direct (plan : TargetPlan) (ctx : Context) (excluded : List Path) :
    (plan.ownTargets (PathLookup.direct ctx.surroundings) ctx excluded).run =
      let configured := (plan.configured (PathLookup.direct ctx.surroundings) ctx excluded).run
      if !configured.isEmpty then configured
      else match (plan.firstFallback? (PathLookup.direct ctx.surroundings) ctx excluded
          plan.fallback).run with
        | some fallback => [fallback]
        | none =>
          if plan.defaultToRoot && !plan.isExcluded excluded ctx.root then [ctx.root.normal]
          else [] := by
  unfold ownTargets
  rfl

/-- The targets behind the caller's files are those of the first source that gives any. -/
theorem ownTargets_first (plan : TargetPlan) (ctx : Context) (excluded : List Path) :
    let own := (plan.ownTargets (PathLookup.direct ctx.surroundings) ctx excluded).run
    Ascending own ∧ ∀ path, path ∈ own ↔
      InFirst [plan.FromConfiguration ctx excluded,plan.FromFallback ctx excluded,
        plan.FromRoot ctx excluded] path := by
  have enumerated := configured_enumerates plan ctx excluded
  have fallback := firstFallback_iff plan ctx excluded
  rw [ownTargets_direct]
  generalize (plan.configured (PathLookup.direct ctx.surroundings) ctx excluded).run = configured
    at enumerated
  generalize (plan.firstFallback? (PathLookup.direct ctx.surroundings) ctx excluded
    plan.fallback).run = found at fallback
  cases configured with
  | cons first others =>
    refine ⟨enumerated.ascending,fun path => ?_⟩
    rw [inFirst_given _ _ first (enumerated.sound first (by simp))]
    exact enumerated.mem_iff (configuration_tidy plan ctx excluded) path
  | nil =>
    have absent := enumerated.eq_nil_iff.mp rfl
    cases found with
    | some candidate =>
      refine ⟨List.pairwise_singleton _ _,fun path => ?_⟩
      rw [inFirst_absent _ _ absent,inFirst_given _ _ candidate ((fallback candidate).mp rfl),
        ← fallback path,Option.some.injEq]
      exact List.mem_singleton.trans eq_comm
    | none =>
      have unusable (path : Path) : ¬plan.FromFallback ctx excluded path := by
        rw [← fallback path]
        simp
      have last (path : Path) : InFirst [plan.FromConfiguration ctx excluded,
          plan.FromFallback ctx excluded,plan.FromRoot ctx excluded] path ↔
          plan.FromRoot ctx excluded path := by
        rw [inFirst_absent _ _ absent,inFirst_absent _ _ unusable]
        simp [InFirst]
      have whole : (plan.defaultToRoot && !plan.isExcluded excluded ctx.root) = true ↔
          plan.defaultToRoot = true ∧ ¬plan.LeavesOut excluded ctx.root := by
        rw [Bool.and_eq_true,not_isExcluded_iff]
      simp only [last,FromRoot,← and_assoc,← whole]
      cases plan.defaultToRoot && !plan.isExcluded excluded ctx.root with
      | true => exact ⟨List.pairwise_singleton _ _,by simp⟩
      | false => exact ⟨List.Pairwise.nil,by simp⟩

section Sharing
variable {σ : Type} {good : σ → Prop} {s : Surroundings} {paths : PathLookup (StateM σ)}

theorem configured_answers (resolves : paths.ResolvesAs good s) (plan : TargetPlan) (ctx : Context)
    (excluded : List Path) :
    Answers good (plan.configured paths ctx excluded)
      (plan.configured (PathLookup.direct s) ctx excluded) := by
  unfold configured
  exact (Answers.mapM (resolves ctx.root) _).bind fun _ => Answers.pure _

theorem firstFallback_answers (resolves : paths.ResolvesAs good s) (plan : TargetPlan)
    (ctx : Context) (excluded : List Path) (texts : List String) :
    Answers good (plan.firstFallback? paths ctx excluded texts)
      (plan.firstFallback? (PathLookup.direct s) ctx excluded texts) := by
  induction texts with
  | nil => exact Answers.pure none
  | cons text rest ih =>
    refine (resolves ctx.root text).bind fun candidate => ?_
    split
    · exact Answers.pure (some candidate)
    · exact ih

theorem ownTargets_answers (resolves : paths.ResolvesAs good s) (plan : TargetPlan) (ctx : Context)
    (excluded : List Path) :
    Answers good (plan.ownTargets paths ctx excluded)
      (plan.ownTargets (PathLookup.direct s) ctx excluded) := by
  unfold ownTargets
  refine (configured_answers resolves plan ctx excluded).bind fun named => ?_
  split
  · exact Answers.pure named
  · refine (firstFallback_answers resolves plan ctx excluded plan.fallback).bind fun found => ?_
    cases found with
    | some fallback => exact Answers.pure [fallback]
    | none =>
      dsimp only
      split
      · exact Answers.pure [ctx.root.normal]
      · exact Answers.pure []

theorem targets_answers (resolves : paths.ResolvesAs good s) (plan : TargetPlan) (ctx : Context)
    (excluded : List Path) :
    Answers good (plan.targets paths ctx excluded)
      (plan.targets (PathLookup.direct s) ctx excluded) := by
  unfold targets
  dsimp only
  split
  · exact Answers.pure _
  · exact (ownTargets_answers resolves plan ctx excluded).bind fun _ => Answers.pure _

end Sharing

theorem targets_direct (plan : TargetPlan) (ctx : Context) (excluded : List Path) :
    (plan.targets (PathLookup.direct ctx.surroundings) ctx excluded).run =
      if !(plan.callerFiles ctx excluded).isEmpty then
        (plan.callerFiles ctx excluded).map (·.text)
      else plan.led (plan.ownTargets (PathLookup.direct ctx.surroundings) ctx excluded).run := by
  unfold targets
  rfl

/-- Arguments that name what the first source gives, in path order and each path once. The caller's
files stand as they were given; all others are behind the leading argument. -/
def NamesFirstSource (plan : TargetPlan) (ctx : Context) (excluded : List Path)
    (targets : List String) : Prop :=
  ∃ listed : List Path, Ascending listed ∧
    ((listed ≠ [] ∧ Enumerates listed (plan.FromCaller ctx excluded) ∧
        targets = listed.map (·.text)) ∨
      (∀ file, ¬plan.FromCaller ctx excluded file) ∧
        (∀ path, path ∈ listed ↔ InFirst [plan.FromConfiguration ctx excluded,
          plan.FromFallback ctx excluded,plan.FromRoot ctx excluded] path) ∧
        targets = listed.flatMap fun path => plan.leader.toList ++ [path.text])

/-- The targets are those of the first source that gives any. What the resolver was asked before
makes no difference. -/
theorem targets_from_first_source (plan : TargetPlan) (ctx : Context) (excluded : List Path)
    (resolver : Resolver) (reached : Resolver.Reached ctx.surroundings resolver) :
    plan.NamesFirstSource ctx excluded
      ((plan.targets (Resolver.lookup ctx.surroundings) ctx excluded).run resolver).1 := by
  have answers := targets_answers (Resolver.lookup_resolves ctx.surroundings) plan ctx excluded
  have files := callerFiles_enumerate plan ctx excluded
  obtain ⟨ascending,members⟩ := ownTargets_first plan ctx excluded
  rw [(answers resolver reached.honest).1,targets_direct]
  cases given : plan.callerFiles ctx excluded with
  | cons first others =>
    rw [given] at files
    exact ⟨first :: others,files.ascending,.inl ⟨by simp,files,rfl⟩⟩
  | nil =>
    rw [given] at files
    exact ⟨_,ascending,.inr ⟨files.eq_nil_iff.mp rfl,members,rfl⟩⟩

def settingPlan : TargetPlan :=
  { settings := ["paths"]
    includeRoots := false
    includeExplicit := false
    fallback := ["."]
    defaultToRoot := true
    filterExcluded := true
    leader := some "--path" }

def settingRun : Context :=
  { root := ⟨"/repo"⟩
    settings := [("paths",.arr [.str "src",.str "lib"])]
    config := Config.stock
    files := []
    surroundings := ⟨none,⟨"/"⟩,fun _ => false⟩ }

def spelledResolver : Resolver :=
  (Resolver.resolve settingRun.surroundings ⟨"/repo/"⟩ "src" (Resolver.fresh 4)).2

theorem settingRun_first_source : Resolver.Reached settingRun.surroundings spelledResolver ∧
    settingPlan.NamesFirstSource settingRun [⟨"/repo/lib"⟩]
      ((settingPlan.targets (Resolver.lookup settingRun.surroundings) settingRun
        [⟨"/repo/lib"⟩]).run spelledResolver).1 :=
  have reached := Resolver.Reached.resolve ⟨"/repo/"⟩ "src" (Resolver.fresh 4) (.fresh 4)
  ⟨reached,targets_from_first_source settingPlan settingRun [⟨"/repo/lib"⟩] spelledResolver reached⟩

end LintTools.TargetPlan
