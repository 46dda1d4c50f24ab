import LintTools.Proofs.Path.Segments
import LintTools.Proofs.Path.Sharing
import LintTools.Target.Selector

/-! Files looked at through one resolver. It remembers segments for a path and a root by component,
so an answer is the one for the spelling that was asked for first. The answers are those of fresh
resolvers exactly where no two spellings that are asked for disagree on segments. -/
namespace LintTools

/-- Equal look-ups among those that are asked for have texts with the same segments, if their
answers go by the texts. -/
def SpelledAlike (asked : Path → Path → Prop) : Prop :=
  ∀ candidate root other base, asked candidate root → asked other base →
    candidate.components = other.components → root.components = base.components →
      Path.Nameless candidate root →
        Path.segments candidate.text.toList = Path.segments other.text.toList

namespace Resolver

structure Remembers (s : Surroundings) (asked : Path → Path → Prop) (resolver : Resolver) :
    Prop where
  honest : resolver.Honest s
  answered : ∀ key segments, (key,segments) ∈ resolver.parted → ∃ candidate root : Path,
    asked candidate root ∧ key = (candidate.components,root.components) ∧
      segments = Path.parts candidate root

variable (s : Surroundings) (asked : Path → Path → Prop)

theorem fresh_remembers (capacity : Nat) : (fresh capacity).Remembers s asked where
  honest := fresh_honest s capacity
  answered key segments member := by simp [fresh] at member

theorem Loses.remembers {before after : Resolver} (loses : Loses before after)
    (remembers : before.Remembers s asked) : after.Remembers s asked where
  honest := loses.honest remembers.honest
  answered key segments member := remembers.answered key segments (loses.parted member)

theorem parts_hit (candidate root : Path) (segments : List String) (resolver : Resolver)
    (found : resolver.parted.lookup (candidate.components,root.components) = some segments) :
    Resolver.parts candidate root resolver = (segments,resolver) := by
  simp only [Resolver.parts,found]

theorem parts_miss (candidate root : Path) (resolver : Resolver)
    (missing : resolver.parted.lookup (candidate.components,root.components) = none) :
    Resolver.parts candidate root resolver = (Path.parts candidate root,
      { resolver with
        parted := ((candidate.components,root.components),Path.parts candidate root) ::
          resolver.parted }) := by
  simp only [Resolver.parts,missing]

theorem resolve_remembers (root : Path) (text : String) :
    Answers (Remembers s asked) (Resolver.resolve s root text)
      (pure (Path.resolve s root text)) := by
  intro resolver remembers
  obtain ⟨answer,honest⟩ := resolve_answers s root text resolver remembers.honest
  refine ⟨answer,honest,?_⟩
  intro key segments member
  exact remembers.answered key segments (resolve_parted s root text resolver ▸ member)

/-- The answer is that for some spelling that was asked for, and it is remembered. -/
theorem parts_remembered (candidate root : Path) (wanted : asked candidate root)
    (resolver : Resolver) (remembers : resolver.Remembers s asked) :
    (∃ other base, asked other base ∧ candidate.components = other.components ∧
        root.components = base.components ∧
        (Resolver.parts candidate root resolver).1 = Path.parts other base) ∧
      (Resolver.parts candidate root resolver).2.Remembers s asked := by
  cases found : resolver.parted.lookup (candidate.components,root.components) with
  | some segments =>
    obtain ⟨other,base,wantedToo,same,given⟩ := remembers.answered _ segments (lookup_mem _ _ _ found)
    obtain ⟨sameToo,sameRoot⟩ := Prod.mk.inj same
    rw [parts_hit candidate root segments resolver found]
    exact ⟨⟨other,base,wantedToo,sameToo,sameRoot,given⟩,remembers⟩
  | none =>
    rw [parts_miss candidate root resolver found]
    refine ⟨⟨candidate,root,wanted,rfl,rfl,rfl⟩,remembers.honest,?_⟩
    intro key segments member
    rcases List.mem_cons.mp member with same | inside
    · obtain ⟨sameKey,given⟩ := Prod.mk.inj same
      exact ⟨candidate,root,wanted,sameKey,given⟩
    · exact remembers.answered key segments inside

theorem parts_remembers (alike : SpelledAlike asked) (candidate root : Path)
    (wanted : asked candidate root) :
    Answers (Remembers s asked) (Resolver.parts candidate root)
      (pure (Path.parts candidate root)) := by
  intro resolver remembers
  obtain ⟨answered,kept⟩ := parts_remembered s asked candidate root wanted resolver remembers
  obtain ⟨other,base,wantedToo,same,sameRoot,given⟩ := answered
  refine ⟨?_,kept⟩
  rw [Id.run_pure,eq_comm]
  refine Eq.trans ?_ given.symm
  apply (Path.parts_congr_iff candidate other root base same sameRoot).mpr
  exact alike candidate root other base wanted wantedToo same sameRoot

end Resolver

def TargetSelector.targetsOf {m : Type → Type} [Monad m] (paths : PathLookup m)
    (selector : TargetSelector) (ctx : Context) (excluded files : List Path) : m (List String) := do
  if !files.isEmpty then return files.map (·.text)
  match ← selector.fallback? paths ctx excluded with
  | some directory => return [directory.text]
  | none => return if selector.defaultToRoot then [ctx.root.text] else []

structure SameLookups {m n : Type → Type} [Monad m] [Monad n] (steps : Lockstep m n)
    (paths : PathLookup m) (others : PathLookup n) (asked : Path → Path → Prop) : Prop where
  resolve : ∀ root text, steps.rel (paths.resolve root text) (others.resolve root text)
  parts : ∀ candidate root, asked candidate root →
    steps.rel (paths.parts candidate root) (others.parts candidate root)

namespace SameLookups
variable {m n : Type → Type} [Monad m] [Monad n] {steps : Lockstep m n} {paths : PathLookup m}
  {others : PathLookup n} {asked : Path → Path → Prop} (same : SameLookups steps paths others asked)
include same

theorem meets (candidate root : Path) (requirements : List (List String))
    (wanted : requirements ≠ [] → asked candidate root) :
    steps.rel (paths.meets candidate root requirements)
      (others.meets candidate root requirements) := by
  unfold PathLookup.meets
  split
  · exact steps.pure true
  · rename_i some
    have filled : requirements ≠ [] := by simpa using some
    exact steps.bind (same.parts candidate root (wanted filled)) fun _ => steps.pure _

theorem fits (selector : TargetSelector) (ctx : Context) (file : Path)
    (wanted : selector.requirements ≠ [] → selector.fitsText file = true → asked file ctx.root) :
    steps.rel (selector.fits paths ctx file) (selector.fits others ctx file) := by
  unfold TargetSelector.fits
  split
  · rename_i fitting
    exact same.meets file ctx.root _ fun filled => wanted filled fitting
  · exact steps.pure false

theorem fallback? (selector : TargetSelector) (ctx : Context) (excluded : List Path) :
    steps.rel (selector.fallback? paths ctx excluded) (selector.fallback? others ctx excluded) := by
  unfold TargetSelector.fallback?
  split
  · exact steps.pure none
  · apply steps.bind (same.resolve ctx.root _)
    intro directory
    split
    · exact steps.pure _
    · exact steps.pure none

theorem targetsOf (selector : TargetSelector) (ctx : Context) (excluded files : List Path) :
    steps.rel (selector.targetsOf paths ctx excluded files)
      (selector.targetsOf others ctx excluded files) := by
  unfold TargetSelector.targetsOf
  split
  · exact steps.pure _
  · apply steps.bind (same.fallback? selector ctx excluded)
    intro directory?
    split
    · exact steps.pure _
    · exact steps.pure _

/-- A selection goes by what its own look-ups answer. -/
theorem select (selector : TargetSelector) (ctx : Context) (excluded : List Path)
    (wanted : selector.requirements ≠ [] → ∀ file ∈ ctx.files, selector.fitsText file = true →
      asked file ctx.root) :
    steps.rel (selector.select paths ctx excluded) (selector.select others ctx excluded) := by
  have kept := steps.filterM ctx.files fun file member =>
    same.fits selector ctx file fun filled => wanted filled file member
  exact steps.bind kept fun files => same.targetsOf selector ctx excluded files

end SameLookups

inductive FileCall where
  | parts (candidate root : Path)
  | meets (candidate root : Path) (requirements : List (List String))
  | select (selector : TargetSelector) (ctx : Context) (excluded : List Path)

namespace FileCall

inductive Answer where
  | segments (texts : List String)
  | verdict (met : Bool)
  | targets (texts : List String)
  deriving DecidableEq

def run {m : Type → Type} [Monad m] (paths : PathLookup m) : FileCall → m Answer
  | parts candidate root => return .segments (← paths.parts candidate root)
  | meets candidate root requirements =>
    return .verdict (← paths.meets candidate root requirements)
  | select selector ctx excluded => return .targets (← selector.select paths ctx excluded)

def Within (asked : Path → Path → Prop) : FileCall → Prop
  | parts candidate root => asked candidate root
  | meets candidate root requirements => requirements ≠ [] → asked candidate root
  | select selector ctx _ => selector.requirements ≠ [] → ∀ file ∈ ctx.files,
      selector.fitsText file = true → asked file ctx.root

theorem run_lockstep {m n : Type → Type} [Monad m] [Monad n] {steps : Lockstep m n}
    {paths : PathLookup m} {others : PathLookup n} {asked : Path → Path → Prop}
    (same : SameLookups steps paths others asked) (call : FileCall) (within : call.Within asked) :
    steps.rel (call.run paths) (call.run others) := by
  cases call with
  | parts candidate root => exact steps.bind (same.parts candidate root within) fun _ => steps.pure _
  | meets candidate root requirements =>
    exact steps.bind (same.meets candidate root requirements within) fun _ => steps.pure _
  | select selector ctx excluded =>
    exact steps.bind (same.select selector ctx excluded within) fun _ => steps.pure _

/-- Calls that share a resolver, which may lose entries in between, are answered as each of them is
by a fresh one. -/
def Transparent (s : Surroundings) (asked : Path → Path → Prop) : Prop :=
  ∀ (σ : Type) (forget : σ × Resolver → σ × Resolver) (start : σ) (capacity own : Nat)
    (history : List FileCall), (∀ memory, Resolver.Loses memory.2 (forget memory).2) →
      (∀ call ∈ history, call.Within asked) →
        ((history.mapM (run (Resolver.forgetful forget s))).run
            (start,Resolver.fresh capacity)).1 =
          history.map fun call => ((call.run (Resolver.lookup s)).run (Resolver.fresh own)).1

theorem transparent_of_alike (s : Surroundings) (asked : Path → Path → Prop)
    (alike : SpelledAlike asked) : Transparent s asked := by
  intro σ forget start capacity own history loses within
  have shared : SameLookups (Answers.lockstep fun memory : σ × Resolver =>
      memory.2.Remembers s asked) (Resolver.forgetful forget s) (PathLookup.direct s) asked := by
    constructor
    · intro root text memory remembers
      exact Resolver.resolve_remembers s asked root text (forget memory).2
        ((loses memory).remembers s asked remembers)
    · intro candidate root wanted memory remembers
      exact Resolver.parts_remembers s asked alike candidate root wanted (forget memory).2
        ((loses memory).remembers s asked remembers)
  have alone : SameLookups (Answers.lockstep (Resolver.Remembers s asked)) (Resolver.lookup s)
      (PathLookup.direct s) asked :=
    ⟨Resolver.resolve_remembers s asked,Resolver.parts_remembers s asked alike⟩
  have together := (Answers.lockstep _).mapM history fun call member =>
    run_lockstep shared call (within call member)
  rw [(together _ (Resolver.fresh_remembers s asked capacity)).1,List.idRun_mapM]
  apply List.map_congr_left
  intro call member
  have answer := run_lockstep alone call (within call member)
  exact (answer _ (Resolver.fresh_remembers s asked own)).1.symm

/-- The second of two equal look-ups gets the answer to the first. -/
theorem parts_twice (s : Surroundings) (candidate root other base : Path) (capacity : Nat)
    (same : candidate.components = other.components) (sameRoot : root.components = base.components) :
    (([parts candidate root,parts other base].mapM (run (Resolver.forgetful id s))).run
        ((),Resolver.fresh capacity)).1 =
      [.segments (Path.parts candidate root),.segments (Path.parts candidate root)] := by
  have first := Resolver.parts_miss candidate root (Resolver.fresh capacity) rfl
  have second := Resolver.parts_hit other base (Path.parts candidate root)
    (Resolver.parts candidate root (Resolver.fresh capacity)).2
    (by rw [first,same,sameRoot]; simp)
  simp only [List.mapM_cons,List.mapM_nil,run]
  change [Answer.segments (Resolver.parts candidate root (Resolver.fresh capacity)).1,
    Answer.segments (Resolver.parts other base
      (Resolver.parts candidate root (Resolver.fresh capacity)).2).1] = _
  rw [second,first]

/-- Sharing goes unnoticed exactly where no two look-ups of equal paths read different segments off
their texts. -/
theorem transparent_iff_alike (s : Surroundings) (asked : Path → Path → Prop) :
    Transparent s asked ↔ SpelledAlike asked := by
  constructor
  · intro transparent candidate root other base wanted wantedToo same sameRoot
    apply (Path.parts_congr_iff candidate other root base same sameRoot).mp
    have within : ∀ call ∈ [parts candidate root,parts other base], call.Within asked := by
      intro call member
      rcases List.mem_pair.mp member with rfl | rfl
      · exact wanted
      · exact wantedToo
    have answers := transparent Unit id () 0 0 [parts candidate root,parts other base]
      (fun memory => ⟨List.Subset.refl _,List.Subset.refl _⟩) within
    rw [parts_twice s candidate root other base 0 same sameRoot] at answers
    have second := (List.cons.inj (List.cons.inj answers).2).1
    exact Answer.segments.inj second
  · exact transparent_of_alike s asked

/-- Among paths in their shortest spelling no two disagree. -/
example : SpelledAlike fun candidate _ => candidate.Tidy := by
  intro candidate root other base tidy tidyToo same _ _
  have spelled : candidate = other := by rw [← tidy,same,tidyToo]
  rw [spelled]

def dottedRoot : List FileCall := [parts ⟨"/repo"⟩ ⟨"/repo"⟩,parts ⟨"/repo/."⟩ ⟨"/repo"⟩]

/-- The second spelling is answered as the first, and alone it is not. -/
theorem dottedRoot_shared_differs :
    ((dottedRoot.mapM (run (Resolver.lookup ⟨none,⟨"/"⟩,fun _ => false⟩))).run
        (Resolver.fresh 1024)).1 = [.segments ["repo"],.segments ["repo"]] ∧
      (dottedRoot.map fun call => ((call.run (Resolver.lookup ⟨none,⟨"/"⟩,fun _ => false⟩)).run
        (Resolver.fresh 1024)).1) = [.segments ["repo"],.segments ["repo","."]] := by
  decide +kernel

end FileCall
end LintTools
