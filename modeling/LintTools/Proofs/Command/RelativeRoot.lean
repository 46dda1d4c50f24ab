import LintTools.Proofs.Command.Exclusion

/-! The caller's files under a relative root. Settings leave out absolute paths then, while a file
and a path of discovery stay relative, so what lies below what is decided between paths of two
kinds; taken from the current directory they would all be absolute. The files that a run keeps only
because of that are the missed ones, and without them both ways keep the same. -/
namespace LintTools

def Context.fromCurrent (ctx : Context) : Context :=
  { ctx with root := ctx.surroundings.currentDirectory ++ ctx.root }

namespace ProjectScanner
open LintTools.TargetPlan (meaning)

def kept (scanner : ProjectScanner) (plan : TargetPlan) (ctx : Context) : List Path :=
  plan.callerFiles ctx (scanner.excluded (PathLookup.direct ctx.surroundings) ctx).run

def Covers (scanner : ProjectScanner) (ctx : Context) (path : Path) : Prop :=
  ∃ base, scanner.LeftOut ctx base ∧ base.normalComponents <+: path.normalComponents

/-- A file below a path that is left out, where only one of the two is absolute. -/
def Misses (scanner : ProjectScanner) (ctx : Context) (file : Path) : Prop :=
  ∃ base, scanner.LeftOut ctx base ∧ base.isAbsolute ≠ (ctx.anchor file).isAbsolute ∧
    (ctx.surroundings.currentDirectory ++ base).normalComponents <+:
      (ctx.surroundings.currentDirectory ++ ctx.anchor file).normalComponents

/-- A run from an absolute directory. When discovery leaves out paths too, all relative ones stay
below that directory. -/
structure Local (scanner : ProjectScanner) (ctx : Context) : Prop where
  current : ctx.surroundings.currentDirectory.isAbsolute = true
  root : ctx.root.text ≠ ""
  excludes : scanner.includeDiscovery = true → ∀ directory ∈ ctx.config.discovery.excludes,
    (ctx.anchor directory).normalComponents ≠ [] ∧ (ctx.anchor directory).Descends
  files : scanner.includeDiscovery = true → ∀ file ∈ ctx.files, (ctx.anchor file).Descends

theorem leavesOut_iff (scanner : ProjectScanner) (plan : TargetPlan) (ctx : Context) (path : Path) :
    plan.LeavesOut (scanner.excluded (PathLookup.direct ctx.surroundings) ctx).run path ↔
      plan.filterExcluded = true ∧ scanner.Covers ctx path := by
  have enumerated := scanner.excluded_enumerates ctx
  refine and_congr_right fun _ => ⟨?_,?_⟩
  · intro covered
    obtain ⟨base,member,under⟩ := covered
    exact ⟨base,enumerated.sound base member,under⟩
  · intro covered
    obtain ⟨base,left,under⟩ := covered
    obtain ⟨same,member,equal⟩ := enumerated.complete base left
    rw [← Path.normalComponents_congr same base equal] at under
    exact ⟨same,member,under⟩

section Run
variable (scanner : ProjectScanner) (ctx : Context)

theorem anchor_from_current (path : Path) :
    (ctx.fromCurrent.anchor path).normalComponents =
      (ctx.surroundings.currentDirectory ++ ctx.anchor path).normalComponents :=
  Path.normalComponents_congr _ _ (Path.append_assoc_components _ ctx.root path)

theorem meaning_from_current (text : String)
    (current : ctx.surroundings.currentDirectory.isAbsolute = true) (filled : ctx.root.text ≠ "") :
    meaning ctx.fromCurrent text = meaning ctx text :=
  Path.resolve_from_current ctx.surroundings ctx.root text current filled

variable (isLocal : scanner.Local ctx)
include isLocal

theorem meaning_absolute (text : String) : (meaning ctx text).isAbsolute = true := by
  rw [← meaning_from_current ctx text isLocal.current isLocal.root]
  exact Path.resolve_rooted _ _ text (Path.append_rooted _ ctx.root isLocal.current)

theorem covers_from_current (path : Path) :
    scanner.Covers ctx.fromCurrent path ↔ ∃ base, scanner.LeftOut ctx base ∧
      (ctx.surroundings.currentDirectory ++ base).normalComponents <+: path.normalComponents := by
  have same (text : String) := meaning_from_current ctx text isLocal.current isLocal.root
  have alone (text : String) : ctx.surroundings.currentDirectory ++ meaning ctx text =
      meaning ctx text :=
    Path.append_of_absolute _ _ (meaning_absolute scanner ctx isLocal text)
  constructor
  · intro covered
    obtain ⟨base,left,under⟩ := covered
    rcases left with ⟨name,listed,text,inside,equal⟩ | ⟨enabled,directory,listed,equal⟩
    · rw [equal,same text,← alone text] at under
      exact ⟨meaning ctx text,.inl ⟨name,listed,text,inside,rfl⟩,under⟩
    · rw [equal,anchor_from_current] at under
      exact ⟨ctx.anchor directory,.inr ⟨enabled,directory,listed,rfl⟩,under⟩
  · intro covered
    obtain ⟨base,left,under⟩ := covered
    rcases left with ⟨name,listed,text,inside,equal⟩ | ⟨enabled,directory,listed,equal⟩
    · rw [equal,alone text,← same text] at under
      exact ⟨meaning ctx.fromCurrent text,.inl ⟨name,listed,text,inside,rfl⟩,under⟩
    · rw [equal,← anchor_from_current] at under
      exact ⟨ctx.fromCurrent.anchor directory,.inr ⟨enabled,directory,listed,rfl⟩,under⟩

/-- A path that is left out can be compared with any file of its own kind. -/
theorem leftOut_comparable (base file : Path) (left : scanner.LeftOut ctx base)
    (listed : file ∈ ctx.files) :
    base.normalComponents ≠ [] ∧
      (base.isAbsolute = false → base.Descends ∧ (ctx.anchor file).Descends) := by
  -- Settings name absolute paths, so a relative one comes from discovery.
  rcases left with ⟨_,_,text,_,equal⟩ | ⟨enabled,directory,found,equal⟩
  · have absolute := meaning_absolute scanner ctx isLocal text
    rw [equal]
    refine ⟨Path.normalComponents_filled _ absolute,?_⟩
    intro relative
    rw [absolute] at relative
    exact Bool.noConfusion relative
  · obtain ⟨filled,descends⟩ := isLocal.excludes enabled directory found
    rw [equal]
    exact ⟨filled,fun _ => ⟨descends,isLocal.files enabled file listed⟩⟩

/-- Taken from the current directory, what is left out covers the files that it covers as they stand
and the missed ones. -/
theorem covers_file_from_current (file : Path) (listed : file ∈ ctx.files) :
    scanner.Covers ctx.fromCurrent (ctx.fromCurrent.anchor file) ↔
      scanner.Covers ctx (ctx.anchor file) ∨ scanner.Misses ctx file := by
  rw [covers_from_current scanner ctx isLocal,anchor_from_current]
  constructor
  · intro covered
    obtain ⟨base,left,under⟩ := covered
    obtain ⟨_,descends⟩ := leftOut_comparable scanner ctx isLocal base file left listed
    by_cases kind : base.isAbsolute = (ctx.anchor file).isAbsolute
    · rw [Path.prefix_from_current _ base _ kind descends] at under
      exact .inl ⟨base,left,under⟩
    · exact .inr ⟨base,left,kind,under⟩
  · intro either
    rcases either with ⟨base,left,under⟩ | ⟨base,left,_,under⟩
    · obtain ⟨filled,descends⟩ := leftOut_comparable scanner ctx isLocal base file left listed
      have kind := Path.kind_of_prefix base _ filled under
      rw [← Path.prefix_from_current _ base _ kind descends] at under
      exact ⟨base,left,under⟩
    · exact ⟨base,left,under⟩

theorem leavesOut_from_current (plan : TargetPlan) (file : Path) (listed : file ∈ ctx.files) :
    plan.LeavesOut
        (scanner.excluded (PathLookup.direct ctx.surroundings) ctx.fromCurrent).run
        (ctx.fromCurrent.anchor file) ↔
      plan.LeavesOut (scanner.excluded (PathLookup.direct ctx.surroundings) ctx).run
          (ctx.anchor file) ∨
        plan.filterExcluded = true ∧ scanner.Misses ctx file := by
  have moved := leavesOut_iff scanner plan ctx.fromCurrent (ctx.fromCurrent.anchor file)
  refine moved.trans ?_
  rw [leavesOut_iff,covers_file_from_current scanner ctx isLocal file listed,and_or_left]

end Run

theorem misses_congr (scanner : ProjectScanner) (ctx : Context) (file other : Path)
    (same : file.components = other.components) (missed : scanner.Misses ctx file) :
    scanner.Misses ctx other := by
  obtain ⟨base,left,kind,under⟩ := missed
  have anchored : (ctx.anchor file).components = (ctx.anchor other).components :=
    Path.components_append_right ctx.root file other same
  have whole := Path.components_append_right ctx.surroundings.currentDirectory _ _ anchored
  rw [Path.isAbsolute_congr _ _ anchored] at kind
  rw [Path.normalComponents_congr _ _ whole] at under
  exact ⟨base,left,kind,under⟩

/-- A run keeps what it would keep with its root taken from the current directory, unless it keeps
a file that it misses. -/
theorem kept_from_current_iff (scanner : ProjectScanner) (plan : TargetPlan) (ctx : Context)
    (filters : plan.filterExcluded = true) (isLocal : scanner.Local ctx) :
    scanner.kept plan ctx.fromCurrent = scanner.kept plan ctx ↔
      ∀ file ∈ scanner.kept plan ctx, ¬scanner.Misses ctx file := by
  have here := TargetPlan.callerFiles_enumerate plan ctx
    (scanner.excluded (PathLookup.direct ctx.surroundings) ctx).run
  have moved := TargetPlan.callerFiles_enumerate plan ctx.fromCurrent
    (scanner.excluded (PathLookup.direct ctx.surroundings) ctx.fromCurrent).run
  have decided (file : Path) (listed : file ∈ ctx.files) :=
    leavesOut_from_current scanner ctx isLocal plan file listed
  constructor
  · intro equal file member missed
    have listed : file ∈ scanner.kept plan ctx.fromCurrent := by rwa [equal]
    obtain ⟨given,spared⟩ := moved.sound file listed
    exact spared ((decided file given).mpr (.inr ⟨filters,missed⟩))
  · intro clear
    have spares (file : Path) (listed : file ∈ ctx.files)
        (missed : plan.filterExcluded = true ∧ scanner.Misses ctx file) :
        plan.LeavesOut (scanner.excluded (PathLookup.direct ctx.surroundings) ctx).run
          (ctx.anchor file) := by
      by_contra spared
      obtain ⟨same,member,equal⟩ := here.complete file ⟨listed,spared⟩
      exact clear same member (misses_congr scanner ctx file same equal.symm missed.2)
    refine congrArg Path.distinct (List.filter_congr ?_)
    intro file listed
    rw [Bool.eq_iff_iff,TargetPlan.not_isExcluded_iff,TargetPlan.not_isExcluded_iff]
    exact not_congr ((decided file listed).trans (or_iff_left_of_imp (spares file listed)))

/-- Settings leave out one directory and discovery another. One file of the first is absolute, the
other is not. -/
def mixedRun : Context :=
  { root := ⟨"."⟩
    settings := [("exclude",.arr [.str "build"])]
    config := { Config.stock with discovery := ⟨[],[⟨"vendor"⟩],[]⟩ }
    files := [⟨"build/x.py"⟩,⟨"src/y.py"⟩,⟨"/work/build/x.py"⟩,⟨"vendor/z.py"⟩]
    surroundings := ⟨none,⟨"/work"⟩,fun _ => false⟩ }

theorem mixedRun_local : wideScanner.Local mixedRun where
  current := by decide
  root := by decide
  excludes := by decide +kernel
  files := by decide +kernel

theorem mixedRun_kept_iff :
    callerPlan.filterExcluded = true ∧ wideScanner.Local mixedRun ∧
      (wideScanner.kept callerPlan mixedRun.fromCurrent = wideScanner.kept callerPlan mixedRun ↔
        ∀ file ∈ wideScanner.kept callerPlan mixedRun, ¬wideScanner.Misses mixedRun file) :=
  ⟨rfl,mixedRun_local,
    kept_from_current_iff wideScanner callerPlan mixedRun rfl mixedRun_local⟩

/-- Under the dot a relative file of an excluded directory is kept. -/
theorem mixedRun_differs :
    wideScanner.plan = some callerPlan ∧ callerPlan.filterExcluded = true ∧
      mixedRun.root.isAbsolute = false ∧
      mixedRun.surroundings.currentDirectory.isAbsolute = true ∧
      (wideScanner.build (PathLookup.direct mixedRun.surroundings) mixedRun).run =
        ["scan","--exclude","/work/build,vendor","build/x.py","src/y.py"] ∧
      (wideScanner.build (PathLookup.direct mixedRun.surroundings) mixedRun.fromCurrent).run =
        ["scan","--exclude","/work/build,/work/vendor,build,vendor","src/y.py"] :=
  ⟨rfl,rfl,by decide +kernel⟩

end ProjectScanner
end LintTools
