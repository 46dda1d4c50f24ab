import LintTools.Path.Resolver
import LintTools.Proofs.Path.Components

/-! Shared path look-ups give the plain answers. A resolver compares roots by component, and what a
text means below a root depends on no more than that, so it does not matter which spelling of a
root was asked for first. -/
namespace LintTools.Path

theorem absolute_components_congr (s : Surroundings) (p q : Path)
    (same : p.components = q.components) :
    (absolute s p).components = (absolute s q).components := by
  have empty : p.text.isEmpty = q.text.isEmpty := by
    rw [Bool.eq_iff_iff,String.isEmpty_iff,String.isEmpty_iff,← components_eq_nil,
      ← components_eq_nil,same]
  unfold absolute
  rw [empty,isAbsolute_congr p q same]
  split
  · exact same
  · rename_i relative
    simp only [Bool.or_eq_true,not_or,Bool.not_eq_true] at relative
    rw [components_append _ q relative.1,
      components_append _ p ((isAbsolute_congr p q same).trans relative.1),same]

/-- Equal roots give a text the same path, letter by letter. -/
theorem resolve_congr (s : Surroundings) (root other : Path) (text : String)
    (same : root.components = other.components) : resolve s root text = resolve s other text := by
  have joined := components_append_congr root other (expandHome s text) same
  unfold resolve normal normalComponents
  rw [absolute_components_congr s _ _ joined]

/-- Of its surroundings a text only reads the home and the current directory. -/
theorem resolve_surroundings (s t : Surroundings) (home : s.home = t.home)
    (current : s.currentDirectory = t.currentDirectory) (root : Path) (text : String) :
    resolve s root text = resolve t root text := by
  unfold resolve absolute expandHome
  rw [home,current]

end LintTools.Path

namespace LintTools

/-- A relation between the actions of two monads that results and sequences keep. -/
structure Lockstep (m n : Type → Type) [Monad m] [Monad n] where
  rel : {α : Type} → m α → n α → Prop
  pure : ∀ {α : Type} (value : α), rel (Pure.pure value) (Pure.pure value)
  bind : ∀ {α β : Type} {action : m α} {other : n α} {next : α → m β} {otherNext : α → n β},
    rel action other → (∀ result, rel (next result) (otherNext result)) →
      rel (action >>= next) (other >>= otherNext)

namespace Lockstep
variable {m n : Type → Type} [Monad m] [Monad n] {α β : Type}

theorem mapM [LawfulMonad m] [LawfulMonad n] (steps : Lockstep m n) {step : α → m β}
    {otherStep : α → n β} (items : List α)
    (each : ∀ item ∈ items, steps.rel (step item) (otherStep item)) :
    steps.rel (items.mapM step) (items.mapM otherStep) := by
  induction items with
  | nil => simpa only [List.mapM_nil] using steps.pure []
  | cons item items ih =>
    simp only [List.mapM_cons]
    have later := ih fun other member => each other (List.mem_cons_of_mem item member)
    apply steps.bind (each item List.mem_cons_self)
    intro first
    exact steps.bind later fun _ => steps.pure _

theorem filterM (steps : Lockstep m n) {keep : α → m Bool} {otherKeep : α → n Bool}
    (items : List α) (each : ∀ item ∈ items, steps.rel (keep item) (otherKeep item)) :
    steps.rel (items.filterM keep) (items.filterM otherKeep) := by
  have gathered (kept : List α) :
      steps.rel (items.filterAuxM keep kept) (items.filterAuxM otherKeep kept) := by
    induction items generalizing kept with
    | nil => exact steps.pure kept
    | cons item items ih =>
      apply steps.bind (each item List.mem_cons_self)
      intro keeps
      exact ih (fun other member => each other (List.mem_cons_of_mem item member)) _
  exact steps.bind (gathered []) fun _ => steps.pure _

end Lockstep

/-- From every state that `good` admits, `action` answers `value` and leaves such a state. -/
def Answers {σ α : Type} (good : σ → Prop) (action : StateM σ α) (value : Id α) : Prop :=
  ∀ state, good state → (action.run state).1 = value.run ∧ good (action.run state).2

namespace Answers
variable {σ α β : Type} {good : σ → Prop}

theorem pure (value : α) : Answers good (Pure.pure value) (Pure.pure value) :=
  fun _ admitted => ⟨rfl,admitted⟩

theorem bind {action : StateM σ α} {value : Id α} {next : α → StateM σ β} {plain : α → Id β}
    (first : Answers good action value) (rest : ∀ result, Answers good (next result) (plain result)) :
    Answers good (action >>= next) (value >>= plain) := by
  intro state admitted
  obtain ⟨answer,kept⟩ := first state admitted
  have last := rest (action.run state).1 (action.run state).2 kept
  have run : (action >>= next).run state = (next value.run).run (action.run state).2 := by
    change (next (action.run state).1).run (action.run state).2 = _
    rw [answer]
  rw [answer] at last
  rw [run]
  exact last

def lockstep (good : σ → Prop) : Lockstep (StateM σ) Id := ⟨Answers good,pure,bind⟩

theorem mapM {step : α → StateM σ β} {plain : α → Id β}
    (each : ∀ item, Answers good (step item) (plain item)) (items : List α) :
    Answers good (items.mapM step) (items.mapM plain) :=
  (lockstep good).mapM items fun item _ => each item

end Answers

def Together {σ α : Type} (related : σ → σ → Prop) (action other : StateM σ α) : Prop :=
  ∀ state second, related state second → (action.run state).1 = (other.run second).1 ∧
    related (action.run state).2 (other.run second).2

namespace Together
variable {σ α β : Type} {related : σ → σ → Prop}

theorem bind {action other : StateM σ α} {next otherNext : α → StateM σ β}
    (first : Together related action other)
    (rest : ∀ result, Together related (next result) (otherNext result)) :
    Together related (action >>= next) (other >>= otherNext) := by
  intro state second same
  obtain ⟨answer,kept⟩ := first state second same
  have last := rest (action.run state).1 (action.run state).2 (other.run second).2 kept
  change ((next (action.run state).1).run (action.run state).2).1 =
      ((otherNext (other.run second).1).run (other.run second).2).1 ∧
    related ((next (action.run state).1).run (action.run state).2).2
      ((otherNext (other.run second).1).run (other.run second).2).2
  rw [← answer]
  exact last

def lockstep (related : σ → σ → Prop) : Lockstep (StateM σ) (StateM σ) :=
  ⟨Together related,fun _ _ _ same => ⟨rfl,same⟩,bind⟩

end Together

namespace PathLookup
variable {σ : Type}

theorem direct_resolve (s : Surroundings) (root : Path) (text : String) :
    (direct s).resolve root text = pure (Path.resolve s root text) := rfl

theorem direct_congr (s t : Surroundings) (home : s.home = t.home)
    (current : s.currentDirectory = t.currentDirectory) : direct s = direct t := by
  have same : Path.resolve s = Path.resolve t :=
    funext fun root => funext fun text => Path.resolve_surroundings s t home current root text
  unfold direct
  rw [same]

def ResolvesAs (paths : PathLookup (StateM σ)) (good : σ → Prop) (s : Surroundings) : Prop :=
  ∀ root text, Answers good (paths.resolve root text) ((direct s).resolve root text)

end PathLookup

namespace Resolver

/-- Every remembered path is what its text means below some root with the remembered components. -/
def Honest (s : Surroundings) (resolver : Resolver) : Prop :=
  ∀ key path, (key,path) ∈ resolver.resolved →
    ∃ root : Path, key.1 = root.components ∧ path = Path.resolve s root key.2

structure Loses (before after : Resolver) : Prop where
  resolved : after.resolved ⊆ before.resolved
  parted : after.parted ⊆ before.parted

inductive Reached (s : Surroundings) : Resolver → Prop
  | fresh (capacity : Nat) : Reached s (fresh capacity)
  | resolve (root : Path) (text : String) (before : Resolver) (reached : Reached s before) :
      Reached s (Resolver.resolve s root text before).2
  | parts (candidate root : Path) (before : Resolver) (reached : Reached s before) :
      Reached s (Resolver.parts candidate root before).2
  | lose (before after : Resolver) (reached : Reached s before) (loses : Loses before after) :
      Reached s after

/-- Look-ups through a resolver that loses entries. Before each of them `forget` is applied, which
may go by more than the resolver, such as how often an entry was asked for. -/
def forgetful {σ : Type} (forget : σ × Resolver → σ × Resolver) (s : Surroundings) :
    PathLookup (StateM (σ × Resolver)) where
  resolve root text memory :=
    let (other,resolver) := forget memory
    let (path,resolver) := Resolver.resolve s root text resolver
    (path,(other,resolver))
  parts candidate root memory :=
    let (other,resolver) := forget memory
    let (segments,resolver) := Resolver.parts candidate root resolver
    (segments,(other,resolver))

theorem fresh_honest (s : Surroundings) (capacity : Nat) : (fresh capacity).Honest s := by
  intro key path member
  simp [fresh] at member

theorem Loses.honest {s : Surroundings} {before after : Resolver} (loses : Loses before after)
    (honest : before.Honest s) : after.Honest s :=
  fun key path member => honest key path (loses.resolved member)

theorem honest_of_resolved {s : Surroundings} {before after : Resolver}
    (same : after.resolved = before.resolved) (honest : before.Honest s) : after.Honest s :=
  fun key path member => honest key path (same ▸ member)

theorem lookup_mem {α β : Type} [BEq α] [LawfulBEq α] (key : α) (value : β)
    (entries : List (α × β)) (found : entries.lookup key = some value) : (key,value) ∈ entries := by
  induction entries with
  | nil => simp at found
  | cons entry entries ih =>
    rw [List.lookup_cons] at found
    split at found
    · rename_i same
      cases found
      simp [beq_iff_eq.mp same]
    · exact List.mem_cons_of_mem _ (ih found)

theorem resolve_hit (s : Surroundings) (root path : Path) (text : String) (resolver : Resolver)
    (found : resolver.resolved.lookup (root.components,text) = some path) :
    Resolver.resolve s root text resolver = (path,resolver) := by
  simp only [Resolver.resolve,found]

theorem resolve_miss (s : Surroundings) (root : Path) (text : String) (resolver : Resolver)
    (missing : resolver.resolved.lookup (root.components,text) = none) :
    Resolver.resolve s root text resolver = (Path.resolve s root text,
      { resolver with
        resolved := ((root.components,text),Path.resolve s root text) :: resolver.resolved }) := by
  simp only [Resolver.resolve,missing]

theorem resolve_answers (s : Surroundings) (root : Path) (text : String) :
    Answers (Honest s) (Resolver.resolve s root text) (pure (Path.resolve s root text)) := by
  intro resolver honest
  rw [Id.run_pure]
  change (Resolver.resolve s root text resolver).1 = Path.resolve s root text ∧
    (Resolver.resolve s root text resolver).2.Honest s
  cases found : resolver.resolved.lookup (root.components,text) with
  | some path =>
    obtain ⟨other,same,meaning⟩ := honest _ path (lookup_mem _ _ _ found)
    rw [resolve_hit s root path text resolver found]
    exact ⟨meaning.trans (Path.resolve_congr s other root text same.symm),honest⟩
  | none =>
    rw [resolve_miss s root text resolver found]
    generalize plain : Path.resolve s root text = path
    refine ⟨rfl,?_⟩
    intro key other member
    rcases List.mem_cons.mp member with same | inside
    · obtain ⟨asked,stored⟩ := Prod.mk.inj same
      exact ⟨root,by rw [asked],by rw [stored,asked,plain]⟩
    · exact honest key other inside

theorem parts_resolved (candidate root : Path) (resolver : Resolver) :
    (Resolver.parts candidate root resolver).2.resolved = resolver.resolved := by
  simp only [Resolver.parts]
  split <;> rfl

theorem resolve_parted (s : Surroundings) (root : Path) (text : String) (resolver : Resolver) :
    (Resolver.resolve s root text resolver).2.parted = resolver.parted := by
  simp only [Resolver.resolve]
  split <;> rfl

theorem lookup_resolves (s : Surroundings) : (lookup s).ResolvesAs (Honest s) s :=
  fun root text => resolve_answers s root text

/-- Resolving paths leaves the remembered segments as they are. -/
theorem lookup_resolves_beside (s : Surroundings)
    (kept : List ((List Path.Component × List Path.Component) × List String)) :
    (lookup s).ResolvesAs (fun resolver => resolver.Honest s ∧ resolver.parted = kept) s := by
  intro root text resolver state
  obtain ⟨answer,honest⟩ := resolve_answers s root text resolver state.1
  exact ⟨answer,honest,(resolve_parted s root text resolver).trans state.2⟩

structure SameParts (s : Surroundings) (resolver other : Resolver) : Prop where
  honest : resolver.Honest s
  otherHonest : other.Honest s
  parted : resolver.parted = other.parted

theorem resolve_together (s : Surroundings) (root : Path) (text : String) :
    Together (SameParts s) ((lookup s).resolve root text) ((lookup s).resolve root text) := by
  intro resolver other same
  obtain ⟨answer,honest⟩ := resolve_answers s root text resolver same.honest
  obtain ⟨otherAnswer,otherHonest⟩ := resolve_answers s root text other same.otherHonest
  refine ⟨answer.trans otherAnswer.symm,honest,otherHonest,?_⟩
  exact (resolve_parted s root text resolver).trans
    (same.parted.trans (resolve_parted s root text other).symm)

theorem parts_together (s : Surroundings) (candidate root : Path) :
    Together (SameParts s) ((lookup s).parts candidate root) ((lookup s).parts candidate root) := by
  intro resolver other same
  change (Resolver.parts candidate root resolver).1 = (Resolver.parts candidate root other).1 ∧
    SameParts s (Resolver.parts candidate root resolver).2
      (Resolver.parts candidate root other).2
  have answers : (Resolver.parts candidate root resolver).1 =
      (Resolver.parts candidate root other).1 ∧
    (Resolver.parts candidate root resolver).2.parted =
      (Resolver.parts candidate root other).2.parted := by
    simp only [Resolver.parts,same.parted]
    split
    · exact ⟨rfl,same.parted⟩
    · exact ⟨rfl,rfl⟩
  refine ⟨answers.1,?_,?_,answers.2⟩
  · exact honest_of_resolved (parts_resolved candidate root resolver) same.honest
  · exact honest_of_resolved (parts_resolved candidate root other) same.otherHonest

theorem forgetful_resolves {σ : Type} (forget : σ × Resolver → σ × Resolver)
    (loses : ∀ memory, Loses memory.2 (forget memory).2) (s : Surroundings) :
    (forgetful forget s).ResolvesAs (fun memory => memory.2.Honest s) s := by
  intro root text memory honest
  exact resolve_answers s root text (forget memory).2 ((loses memory).honest honest)

theorem Reached.honest {s : Surroundings} {resolver : Resolver} (reached : Reached s resolver) :
    resolver.Honest s := by
  induction reached with
  | fresh capacity => exact fresh_honest s capacity
  | resolve root text before _ ih => exact (resolve_answers s root text before ih).2
  | parts candidate root before _ ih =>
    exact honest_of_resolved (parts_resolved candidate root before) ih
  | lose before after _ loses ih => exact loses.honest ih

end Resolver
end LintTools
