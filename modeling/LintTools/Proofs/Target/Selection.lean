import LintTools.Proofs.Catalog.Nulls
import LintTools.Proofs.Target.Sharing
import LintTools.Proofs.Text.Run

/-! What a selector picks. It wants the files whose text and segments pass its filters, and without
any it falls back to a directory, then to the root. Segments come from a resolver that compares paths
by component, so the files wanted are the files picked exactly where equal ones meet the requirements
alike. -/
namespace LintTools

namespace TargetSelector

structure Admits (selector : TargetSelector) (file : Path) : Prop where
  ending : selector.suffixes = [] ∨
    ∃ suffix ∈ selector.suffixes, suffix.toList <:+ file.text.toList
  fragment : selector.contains = [] ∨
    ∃ fragment ∈ selector.contains, fragment.toList <:+: file.text.toList

def Met (selector : TargetSelector) (segments : List String) : Prop :=
  ∀ required ∈ selector.requirements, required ≠ [] →
    ∃ before behind, segments = before ++ required ++ behind

structure Wants (selector : TargetSelector) (root file : Path) : Prop where
  admitted : selector.Admits file
  met : selector.Met (Path.parts file root)

theorem fitsText_iff (selector : TargetSelector) (file : Path) :
    selector.fitsText file = true ↔ selector.Admits file := by
  simp only [fitsText,Bool.and_eq_true,Bool.or_eq_true,List.isEmpty_iff,List.any_eq_true,
    Text.endsWith_iff,Text.occursIn_iff]
  exact ⟨fun fits => ⟨fits.1,fits.2⟩,fun admitted => ⟨admitted.ending,admitted.fragment⟩⟩

theorem met_iff (selector : TargetSelector) (segments : List String) :
    selector.requirements.all (Path.hasSequence segments) = true ↔ selector.Met segments := by
  simp only [List.all_eq_true,Path.hasSequence,Text.occursIn_iff]
  constructor
  · intro each required member _
    obtain ⟨before,behind,same⟩ := each required member
    exact ⟨before,behind,same.symm⟩
  · intro met required member
    by_cases empty : required = []
    · rw [empty]
      exact List.nil_infix
    · obtain ⟨before,behind,same⟩ := met required member empty
      exact ⟨before,behind,same.symm⟩

instance (selector : TargetSelector) (file : Path) : Decidable (selector.Admits file) :=
  decidable_of_iff _ (selector.fitsText_iff file)

instance (selector : TargetSelector) (segments : List String) : Decidable (selector.Met segments) :=
  decidable_of_iff _ (selector.met_iff segments)

instance (selector : TargetSelector) (root file : Path) : Decidable (selector.Wants root file) :=
  decidable_of_iff (selector.Admits file ∧ selector.Met (Path.parts file root))
    ⟨fun wanted => ⟨wanted.1,wanted.2⟩,fun wanted => ⟨wanted.admitted,wanted.met⟩⟩

def wanted (selector : TargetSelector) (ctx : Context) : List Path :=
  ctx.files.filter fun file => selector.Wants ctx.root file

def usable (ctx : Context) (excluded : List Path) (text : String) : Bool :=
  let directory := Path.resolve ctx.surroundings ctx.root text
  ctx.surroundings.pathExists directory && !directory.isUnderAny excluded

inductive Outcome (selector : TargetSelector) (ctx : Context) (excluded : List Path) :
    (files : List Path) → (targets : List String) → Prop
  | files (files : List Path) (some : files ≠ []) :
      Outcome selector ctx excluded files (files.map (·.text))
  | fallback (text : String) (named : selector.fallbackDirectory = some text)
      (usable : usable ctx excluded text = true) :
      Outcome selector ctx excluded [] [(Path.resolve ctx.surroundings ctx.root text).text]
  | root (unusable : ∀ text, selector.fallbackDirectory = some text →
        usable ctx excluded text = false)
      (stock : selector.defaultToRoot = true) : Outcome selector ctx excluded [] [ctx.root.text]
  | nothing (unusable : ∀ text, selector.fallbackDirectory = some text →
        usable ctx excluded text = false)
      (unset : selector.defaultToRoot = false) : Outcome selector ctx excluded [] []

theorem fallback?_direct (selector : TargetSelector) (ctx : Context) (excluded : List Path)
    (text : String) (named : selector.fallbackDirectory = some text) :
    selector.fallback? (PathLookup.direct ctx.surroundings) ctx excluded =
      pure (if usable ctx excluded text then
        some (Path.resolve ctx.surroundings ctx.root text) else none) := by
  have test : (ctx.surroundings.pathExists (Path.resolve ctx.surroundings ctx.root text) &&
      !(Path.resolve ctx.surroundings ctx.root text).isUnderAny excluded) =
        usable ctx excluded text := rfl
  simp only [fallback?,named,PathLookup.direct_resolve,pure_bind,test]
  split <;> rfl

/-- Look-ups that remember nothing end in the outcome of the files. -/
theorem targetsOf_direct (selector : TargetSelector) (ctx : Context) (excluded files : List Path) :
    selector.Outcome ctx excluded files
      (selector.targetsOf (PathLookup.direct ctx.surroundings) ctx excluded files).run := by
  have last (unusable : ∀ text, selector.fallbackDirectory = some text →
      usable ctx excluded text = false) : selector.Outcome ctx excluded []
        (if selector.defaultToRoot then [ctx.root.text] else []) := by
    cases stock : selector.defaultToRoot with
    | true => exact .root unusable stock
    | false => exact .nothing unusable stock
  cases files with
  | cons file files => exact .files (file :: files) (by simp)
  | nil =>
    cases named : selector.fallbackDirectory with
    | none =>
      have plain : selector.targetsOf (PathLookup.direct ctx.surroundings) ctx excluded [] =
          pure (if selector.defaultToRoot then [ctx.root.text] else []) := by
        simp only [targetsOf,fallback?,named]
        rfl
      rw [plain]
      exact last fun text given => by simp [named] at given
    | some text =>
      cases use : usable ctx excluded text with
      | true =>
        have plain : selector.targetsOf (PathLookup.direct ctx.surroundings) ctx excluded [] =
            pure [(Path.resolve ctx.surroundings ctx.root text).text] := by
          simp only [targetsOf,fallback?_direct selector ctx excluded text named,use]
          rfl
        rw [plain]
        exact .fallback text named use
      | false =>
        have plain : selector.targetsOf (PathLookup.direct ctx.surroundings) ctx excluded [] =
            pure (if selector.defaultToRoot then [ctx.root.text] else []) := by
          simp only [targetsOf,fallback?_direct selector ctx excluded text named,use]
          rfl
        rw [plain]
        exact last fun other given => by rwa [← Option.some.inj (named.symm.trans given)]

structure SameFilters (selector other : TargetSelector) : Prop where
  suffixes : selector.suffixes = other.suffixes
  contains : selector.contains = other.contains
  requirements : selector.requirements = other.requirements

def withoutFallback (entry : Entries) : Entries :=
  (entry.insert "fallbackDirectory" .null).insert "defaultToRoot" (.bool false)

theorem withoutFallback_get? (entry : Entries) (name : String) (other : "fallbackDirectory" ≠ name)
    (another : "defaultToRoot" ≠ name) : (withoutFallback entry).get? name = entry.get? name := by
  rw [withoutFallback,Entries.get?_other _ _ _ _ another,Entries.get?_other _ _ _ _ other]

def judges (selector : TargetSelector) (segments : List String) : Bool :=
  !segments.isEmpty && selector.requirements.all (Path.hasSequence segments)

section Compiled
variable (value : Json) (context : String) (selector : TargetSelector)
  (compiled : read value context = .ok selector)
include compiled

/-- What the filters of a selector were read from. -/
theorem read_filters : ∃ (entry : Entries) (required : List String), value = .obj entry ∧
    checkKind entry context = .ok () ∧
    strictTexts (entry.get? "suffixes") "suffixes" context = .ok selector.suffixes ∧
    strictTexts (entry.get? "contains") "contains" context = .ok selector.contains ∧
    strictTexts (entry.get? "pathMustInclude") "pathMustInclude" context = .ok required ∧
    selector.requirements = (required.map Path.requirement).filter (!·.isEmpty) := by
  obtain ⟨entry,object,compiled⟩ := (Reading.bind_success _ _ _).mp compiled
  obtain ⟨_,kind,compiled⟩ := (Reading.bind_success _ _ _).mp compiled
  obtain ⟨suffixes,first,compiled⟩ := (Reading.bind_success _ _ _).mp compiled
  obtain ⟨contains,second,compiled⟩ := (Reading.bind_success _ _ _).mp compiled
  obtain ⟨required,third,compiled⟩ := (Reading.bind_success _ _ _).mp compiled
  obtain ⟨_,_,compiled⟩ := (Reading.bind_success _ _ _).mp compiled
  obtain ⟨_,_,same⟩ := (Reading.bind_success _ _ _).mp compiled
  obtain rfl := Except.ok.inj same
  exact ⟨entry,required,requireObject_success value context _ entry object,kind,first,second,
    third,rfl⟩

theorem requirements_filled : ∀ required ∈ selector.requirements, required ≠ [] := by
  obtain ⟨_,_,_,_,_,_,_,same⟩ := read_filters value context selector compiled
  intro required member
  rw [same] at member
  simpa using (List.mem_filter.mp member).2

/-- The same filters can be had without anything to fall back to. -/
theorem read_bare : ∃ bare, read bare context =
    .ok { selector with fallbackDirectory := none, defaultToRoot := false } := by
  obtain ⟨entry,required,_,kind,first,second,third,same⟩ :=
    read_filters value context selector compiled
  refine ⟨.obj (withoutFallback entry),?_⟩
  have kept := withoutFallback_get? entry
  have kindKept : checkKind (withoutFallback entry) context = .ok () := by
    rw [← kind,checkKind,checkKind,kept "type" (by decide) (by decide)]
  have noFallback : optionalFilled (withoutFallback entry) "fallbackDirectory" context =
      .ok none := by
    rw [optionalFilled,withoutFallback,Entries.get?_other _ _ _ _ (by decide),Entries.get?_insert,
      if_pos rfl]
  have noRoot : strictFlag (withoutFallback entry) "defaultToRoot" false context = .ok false := by
    rw [strictFlag,withoutFallback,Entries.get?_insert,if_pos rfl]
  simp only [read,requireObject,Reading.ok_bind,kindKept,kept "suffixes" (by decide) (by decide),
    kept "contains" (by decide) (by decide),kept "pathMustInclude" (by decide) (by decide),first,
    second,third,noFallback,noRoot,same]
  rfl

/-- No segments at all do not meet a requirement, so the two tests on them are one. -/
theorem judges_iff (filled : selector.requirements ≠ []) (segments : List String) :
    selector.judges segments = true ↔ selector.Met segments := by
  rw [judges,Bool.and_eq_true,met_iff,and_iff_right_of_imp]
  intro met
  cases segments with
  | cons => rfl
  | nil =>
    obtain ⟨required,member⟩ := List.exists_mem_of_ne_nil _ filled
    have said := requirements_filled value context selector compiled required member
    obtain ⟨before,behind,same⟩ := met required member said
    simp [said] at same

end Compiled

/-- A file is looked up where its text passes and something is required of its segments. -/
theorem fits_run {σ : Type} (paths : PathLookup (StateM σ)) (selector : TargetSelector)
    (ctx : Context) (file : Path) (memory : σ) :
    (selector.fits paths ctx file).run memory =
      if selector.fitsText file = true ∧ selector.requirements ≠ [] then
        (selector.judges ((paths.parts file ctx.root).run memory).1,
          ((paths.parts file ctx.root).run memory).2)
      else (selector.fitsText file,memory) := by
  unfold fits PathLookup.meets
  cases fitting : selector.fitsText file with
  | false => rfl
  | true =>
    cases required : selector.requirements with
    | nil => rfl
    | cons first others =>
      simp only [judges,required]
      rfl

theorem filterM_pure {α : Type} (keep : α → Bool) (items : List α) :
    (items.filterM fun item => (pure (keep item) : Id Bool)) = pure (items.filter keep) := by
  have gathered (kept : List α) : (items.filterAuxM (fun item => (pure (keep item) : Id Bool)) kept) =
      pure ((items.filter keep).reverse ++ kept) := by
    induction items generalizing kept with
    | nil => rfl
    | cons item items ih =>
      rw [List.filterAuxM,pure_bind,ih,List.filter_cons]
      cases keep item <;> simp
  rw [List.filterM,gathered,pure_bind,List.append_nil,List.reverse_reverse]

/-- Files that are equal by component, if their texts pass, meet the requirements alike. -/
def ComponentsDecide (selector : TargetSelector) (ctx : Context) : Prop :=
  ∀ file ∈ ctx.files, ∀ other ∈ ctx.files, selector.Admits file → selector.Admits other →
    file.components = other.components →
      (selector.Met (Path.parts file ctx.root) ↔ selector.Met (Path.parts other ctx.root))

def Asks (selector : TargetSelector) (ctx : Context) (file root : Path) : Prop :=
  file ∈ ctx.files ∧ selector.Admits file ∧ root = ctx.root

section Remembering
variable {σ : Type} (value : Json) (context : String) (selector : TargetSelector)
  (compiled : read value context = .ok selector) (ctx : Context)
  (decided : selector.ComponentsDecide ctx)
include compiled decided

theorem fits_answers (forget : σ × Resolver → σ × Resolver)
    (loses : ∀ memory, Resolver.Loses memory.2 (forget memory).2) (file : Path)
    (member : file ∈ ctx.files) :
    Answers (fun memory : σ × Resolver => memory.2.Remembers ctx.surroundings (selector.Asks ctx))
      (selector.fits (Resolver.forgetful forget ctx.surroundings) ctx file)
      (pure (decide (selector.Wants ctx.root file))) := by
  intro memory remembers
  rw [fits_run,Id.run_pure]
  split
  · rename_i asked
    obtain ⟨fitting,filled⟩ := asked
    have admitted := (selector.fitsText_iff file).mp fitting
    obtain ⟨⟨other,base,⟨listed,admittedToo,sameRoot⟩,same,_,given⟩,kept⟩ :=
      Resolver.parts_remembered ctx.surroundings (selector.Asks ctx) file ctx.root
        ⟨member,admitted,rfl⟩ (forget memory).2
        ((loses memory).remembers ctx.surroundings (selector.Asks ctx) remembers)
    refine ⟨?_,kept⟩
    change selector.judges (Resolver.parts file ctx.root (forget memory).2).1 = _
    rw [given,sameRoot,Bool.eq_iff_iff,judges_iff value context selector compiled filled,
      decide_eq_true_eq,← decided file member other listed admitted admittedToo same]
    exact ⟨fun met => ⟨admitted,met⟩,fun wanted => wanted.met⟩
  · rename_i plain
    refine ⟨?_,remembers⟩
    rw [Bool.eq_iff_iff,decide_eq_true_eq,fitsText_iff]
    constructor
    · intro admitted
      have free : selector.requirements = [] := by
        by_contra filled
        exact plain ⟨(selector.fitsText_iff file).mpr admitted,filled⟩
      exact ⟨admitted,fun required listed => by simp [free] at listed⟩
    · exact fun wanted => wanted.admitted

/-- Whatever a resolver loses meanwhile, the targets are those of the wanted files. -/
theorem select_outcome (forget : σ × Resolver → σ × Resolver)
    (loses : ∀ memory, Resolver.Loses memory.2 (forget memory).2) (excluded : List Path)
    (start : σ) (capacity : Nat) :
    selector.Outcome ctx excluded (selector.wanted ctx)
      ((selector.select (Resolver.forgetful forget ctx.surroundings) ctx excluded).run
        (start,Resolver.fresh capacity)).1 := by
  let steps := Answers.lockstep fun memory : σ × Resolver =>
    memory.2.Remembers ctx.surroundings (selector.Asks ctx)
  have kept := steps.filterM ctx.files
    (fits_answers value context selector compiled ctx decided forget loses)
  have looks : SameLookups steps (Resolver.forgetful forget ctx.surroundings)
      (PathLookup.direct ctx.surroundings) fun _ _ => False := by
    constructor
    · intro root text memory remembers
      exact Resolver.resolve_remembers ctx.surroundings (selector.Asks ctx) root text
        (forget memory).2 ((loses memory).remembers ctx.surroundings (selector.Asks ctx) remembers)
    · exact fun _ _ impossible => impossible.elim
  have answered := steps.bind kept fun files => looks.targetsOf selector ctx excluded files
  rw [filterM_pure,pure_bind] at answered
  have answer := (answered (start,Resolver.fresh capacity)
    (Resolver.fresh_remembers ctx.surroundings (selector.Asks ctx) capacity)).1
  exact answer ▸ targetsOf_direct selector ctx excluded (selector.wanted ctx)

end Remembering

section Bare
variable (selector : TargetSelector) (ctx : Context) (excluded : List Path)
  (noFallback : selector.fallbackDirectory = none) (noRoot : selector.defaultToRoot = false)
include noFallback noRoot

theorem select_bare {m : Type → Type} [Monad m] [LawfulMonad m] (paths : PathLookup m) :
    selector.select paths ctx excluded =
      (fun files => files.map (·.text)) <$> ctx.files.filterM (selector.fits paths ctx) := by
  have targets (files : List Path) :
      selector.targetsOf paths ctx excluded files = pure (files.map (·.text)) := by
    cases files <;> simp [targetsOf,fallback?,noFallback,noRoot]
  rw [map_eq_pure_bind]
  exact congrArg (_ >>= ·) (funext targets)

theorem Outcome.of_bare (files : List Path) (targets : List String)
    (outcome : selector.Outcome ctx excluded files targets) : targets = files.map (·.text) := by
  cases outcome with
  | files => rfl
  | fallback text named => simp [noFallback] at named
  | root _ stock => simp [noRoot] at stock
  | nothing => rfl

end Bare

abbrev lossless (s : Surroundings) : PathLookup (StateM (Unit × Resolver)) :=
  Resolver.forgetful id s

def Keeps (before after : Resolver) : Prop :=
  ∀ key segments, before.parted.lookup key = some segments → after.parted.lookup key = some segments

def recalls (selector : TargetSelector) (root : Path) (resolver : Resolver) (file : Path) : Bool :=
  selector.fitsText file &&
    (resolver.parted.lookup (file.components,root.components)).any selector.judges

section Recalling
variable (selector : TargetSelector) (ctx : Context) (filled : selector.requirements ≠ [])

/-- An answer is what the resolver remembers from then on. -/
theorem parts_recalled (candidate root : Path) (resolver : Resolver) :
    Keeps resolver (Resolver.parts candidate root resolver).2 ∧
      (Resolver.parts candidate root resolver).2.parted.lookup
        (candidate.components,root.components) =
          some (Resolver.parts candidate root resolver).1 := by
  cases found : resolver.parted.lookup (candidate.components,root.components) with
  | some segments =>
    rw [Resolver.parts_hit candidate root segments resolver found]
    exact ⟨fun _ _ held => held,found⟩
  | none =>
    rw [Resolver.parts_miss candidate root resolver found]
    refine ⟨?_,List.lookup_cons_self⟩
    intro key segments held
    by_cases same : key = (candidate.components,root.components)
    · rw [same,found] at held
      cases held
    · rw [List.lookup_cons,beq_eq_false_iff_ne.mpr same]
      exact held

include filled

theorem fits_recalled (file : Path) (memory : Unit × Resolver) :
    let step := (selector.fits (lossless ctx.surroundings) ctx file).run memory
    Keeps memory.2 step.2.2 ∧
      ∀ after, Keeps step.2.2 after → selector.recalls ctx.root after file = step.1 := by
  intro step
  have shape : step = _ := fits_run _ selector ctx file memory
  split at shape
  · rename_i asked
    obtain ⟨kept,known⟩ := parts_recalled file ctx.root memory.2
    rw [shape]
    refine ⟨kept,?_⟩
    intro after later
    rw [recalls,later _ _ known,asked.1]
    rfl
  · rename_i plain
    have unfit : selector.fitsText file = false := by simpa [filled] using plain
    rw [shape]
    refine ⟨fun _ _ held => held,?_⟩
    intro after _
    rw [recalls,unfit,Bool.false_and]

/-- A resolver that loses nothing answers all along what it remembers in the end. -/
theorem filterAuxM_recalled (files kept : List Path) (memory : Unit × Resolver) :
    let run := (files.filterAuxM (selector.fits (lossless ctx.surroundings) ctx)
      kept).run memory
    Keeps memory.2 run.2.2 ∧ ∀ after, Keeps run.2.2 after →
      run.1 = (files.filter (selector.recalls ctx.root after)).reverse ++ kept := by
  induction files generalizing kept memory with
  | nil => exact ⟨fun _ _ held => held,fun _ _ => rfl⟩
  | cons file files ih =>
    obtain ⟨first,answer⟩ := fits_recalled selector ctx filled file memory
    intro run
    let step := (selector.fits (lossless ctx.surroundings) ctx file).run memory
    obtain ⟨later,rest⟩ := ih (cond step.1 (file :: kept) kept) step.2
    refine ⟨fun key segments held => later key segments (first key segments held),?_⟩
    intro after last
    have same : selector.recalls ctx.root after file = step.1 :=
      answer after fun key segments held => last key segments (later key segments held)
    have shape : run.1 = (files.filter (selector.recalls ctx.root after)).reverse ++
        cond step.1 (file :: kept) kept := rest after last
    rw [shape,List.filter_cons,same]
    cases step.1 <;> simp

/-- Of equal files, if their texts pass, all are picked or none. -/
theorem chosen_recalled (memory : Unit × Resolver) : ∃ after,
    ((ctx.files.filterM (selector.fits (lossless ctx.surroundings) ctx)).run
      memory).1 = ctx.files.filter (selector.recalls ctx.root after) := by
  let run := (ctx.files.filterAuxM (selector.fits (lossless ctx.surroundings) ctx)
    []).run memory
  have shape : run.1 = (ctx.files.filter (selector.recalls ctx.root run.2.2)).reverse ++ [] :=
    (filterAuxM_recalled selector ctx filled ctx.files [] memory).2 run.2.2 fun _ _ held => held
  refine ⟨run.2.2,?_⟩
  change run.1.reverse = _
  rw [shape,List.append_nil,List.reverse_reverse]

end Recalling

theorem SameFilters.admits {selector other : TargetSelector} (same : selector.SameFilters other)
    (file : Path) : selector.Admits file ↔ other.Admits file := by
  rw [← fitsText_iff,← fitsText_iff,fitsText,fitsText,same.suffixes,same.contains]

theorem SameFilters.componentsDecide {selector other : TargetSelector}
    (same : selector.SameFilters other) (ctx : Context) (decided : selector.ComponentsDecide ctx) :
    other.ComponentsDecide ctx := by
  intro file member second memberToo admitted admittedToo equal
  have alike := decided file member second memberToo ((same.admits file).mpr admitted)
    ((same.admits second).mpr admittedToo) equal
  unfold Met at alike ⊢
  rwa [same.requirements] at alike

theorem texts_injective : Function.Injective fun files : List Path => files.map (·.text) := by
  apply List.map_injective_iff.mpr
  intro path other same
  cases path
  cases other
  exact congrArg Path.mk same

/-- With nothing to fall back to, targets that are those of the wanted files tell equal files alike. -/
theorem componentsDecide_of_outcome (selector : TargetSelector) (ctx : Context)
    (noFallback : selector.fallbackDirectory = none) (noRoot : selector.defaultToRoot = false)
    (outcome : selector.Outcome ctx [] (selector.wanted ctx)
      ((selector.select (lossless ctx.surroundings) ctx []).run
        ((),Resolver.fresh 0)).1) : selector.ComponentsDecide ctx := by
  by_cases filled : selector.requirements = []
  · intro file _ other _ _ _ _
    simp [Met,filled]
  obtain ⟨after,chosen⟩ := chosen_recalled selector ctx filled ((),Resolver.fresh 0)
  have picked : selector.wanted ctx = ctx.files.filter (selector.recalls ctx.root after) := by
    have targets := Outcome.of_bare selector ctx [] noFallback noRoot _ _ outcome
    rw [select_bare selector ctx [] noFallback noRoot] at targets
    rw [← chosen]
    exact texts_injective targets.symm
  have wantedToo : ∀ file ∈ ctx.files, ∀ other ∈ ctx.files, selector.Admits file →
      selector.Admits other → file.components = other.components →
        selector.Met (Path.parts file ctx.root) → selector.Met (Path.parts other ctx.root) := by
    intro file member other memberToo admitted admittedToo same met
    have first : file ∈ selector.wanted ctx :=
      List.mem_filter.mpr ⟨member,decide_eq_true ⟨admitted,met⟩⟩
    rw [picked,List.mem_filter,recalls,same,(selector.fitsText_iff file).mpr admitted] at first
    have second : other ∈ selector.wanted ctx := by
      rw [picked,List.mem_filter,recalls,(selector.fitsText_iff other).mpr admittedToo]
      exact ⟨memberToo,first.2⟩
    exact (of_decide_eq_true (List.mem_filter.mp second).2).met
  intro file member other memberToo admitted admittedToo same
  exact ⟨wantedToo file member other memberToo admitted admittedToo same,
    wantedToo other memberToo file member admittedToo admitted same.symm⟩

/-- Selectors with the same filters give the targets of the wanted files, whatever they fall back to
and whatever their resolver loses, exactly where files that are equal by component and pass by text
meet the requirements alike. -/
theorem wanted_targets_iff (value : Json) (context : String) (selector : TargetSelector)
    (compiled : read value context = .ok selector) (ctx : Context) :
    (∀ (value : Json) (context : String) (other : TargetSelector), read value context = .ok other →
      selector.SameFilters other → ∀ (excluded : List Path) (σ : Type)
        (forget : σ × Resolver → σ × Resolver) (start : σ) (capacity : Nat),
        (∀ memory, Resolver.Loses memory.2 (forget memory).2) →
          other.Outcome ctx excluded (other.wanted ctx)
            ((other.select (Resolver.forgetful forget ctx.surroundings) ctx excluded).run
              (start,Resolver.fresh capacity)).1) ↔
      selector.ComponentsDecide ctx := by
  constructor
  · intro stated
    obtain ⟨bare,bareCompiled⟩ := read_bare value context selector compiled
    have outcome := stated bare context _ bareCompiled ⟨rfl,rfl,rfl⟩ [] Unit id () 0
      fun memory => ⟨List.Subset.refl _,List.Subset.refl _⟩
    have decided := componentsDecide_of_outcome _ ctx rfl rfl outcome
    have back : SameFilters { selector with fallbackDirectory := none, defaultToRoot := false }
        selector := ⟨rfl,rfl,rfl⟩
    exact back.componentsDecide ctx decided
  · intro decided value context other otherCompiled same excluded σ forget start capacity loses
    exact select_outcome value context other otherCompiled ctx (same.componentsDecide ctx decided)
      forget loses excluded start capacity

instance (selector : TargetSelector) (ctx : Context) : Decidable (selector.ComponentsDecide ctx) :=
  inferInstanceAs (Decidable (∀ file ∈ ctx.files, ∀ other ∈ ctx.files, selector.Admits file →
    selector.Admits other → file.components = other.components →
      (selector.Met (Path.parts file ctx.root) ↔ selector.Met (Path.parts other ctx.root))))

def sourceEntry : Json :=
  .obj [("pathMustInclude",.arr [.str " src\\app",.str " "]),("suffixes",.str ".lua")]

def sourceSelector : TargetSelector := ⟨[".lua"],[],[["src","app"]],none,false⟩

def sourceRun : Context where
  root := ⟨"/repo"⟩
  settings := []
  config := .stock
  files := [⟨"src/app/z.lua"⟩,⟨"README.md"⟩,⟨"/repo/src/app/./z.lua"⟩,⟨"src/app//z.lua"⟩]
  surroundings := ⟨none,⟨"/"⟩,fun _ => false⟩

theorem sourceRun_wanted : read sourceEntry "selector" = .ok sourceSelector ∧
    sourceSelector.ComponentsDecide sourceRun ∧
    sourceSelector.wanted sourceRun =
      [⟨"src/app/z.lua"⟩,⟨"/repo/src/app/./z.lua"⟩,⟨"src/app//z.lua"⟩] ∧
    sourceSelector.Outcome sourceRun [] (sourceSelector.wanted sourceRun)
      ((sourceSelector.select (lossless sourceRun.surroundings) sourceRun []).run
        ((),Resolver.fresh 1024)).1 := by
  have compiled : read sourceEntry "selector" = .ok sourceSelector := rfl
  have decided : sourceSelector.ComponentsDecide sourceRun := by decide +kernel
  have stated := (wanted_targets_iff sourceEntry "selector" sourceSelector compiled sourceRun).mpr
    decided sourceEntry "selector" sourceSelector compiled ⟨rfl,rfl,rfl⟩ [] Unit id () 1024
    fun memory => ⟨List.Subset.refl _,List.Subset.refl _⟩
  exact ⟨compiled,decided,by decide +kernel,stated⟩

def dotEntry : Json := .obj [("pathMustInclude",.arr [.str "."])]

def dotSelector : TargetSelector := ⟨[],[],[["."]],none,false⟩

def dotRun : Context where
  root := ⟨"/repo"⟩
  settings := []
  config := .stock
  files := [⟨"/repo"⟩,⟨"/repo/."⟩]
  surroundings := ⟨none,⟨"/"⟩,fun _ => false⟩

/-- The second spelling is wanted, and it is not among the targets. -/
theorem dotRun_unlisted : read dotEntry "selector" = .ok dotSelector ∧
    dotSelector.Outcome dotRun [] (dotSelector.wanted dotRun) ["/repo/."] ∧
    ((dotSelector.select (Resolver.lookup dotRun.surroundings) dotRun []).run
      (Resolver.fresh 1024)).1 = [] ∧
    ¬dotSelector.Outcome dotRun [] (dotSelector.wanted dotRun) [] := by
  have wanted : dotSelector.wanted dotRun = [⟨"/repo/."⟩] := by decide +kernel
  rw [wanted]
  refine ⟨rfl,.files [⟨"/repo/."⟩] (by simp),by decide +kernel,?_⟩
  intro outcome
  have same := Outcome.of_bare dotSelector dotRun [] rfl rfl _ _ outcome
  cases same

end TargetSelector
end LintTools
