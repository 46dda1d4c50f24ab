import LintTools.Command.OptionMap
import LintTools.Command.ProjectScanner
import LintTools.Proofs.Target.Source

/-! Commands built through one resolver. Options, exclusions and targets only resolve paths, so a
build answers from every honest resolver what it answers without one, and a history of builds is
the list of the commands that each of them gives alone. -/
namespace LintTools

section Builds
variable {σ : Type} {good : σ → Prop} {s : Surroundings} {paths : PathLookup (StateM σ)}

namespace CommandOption

theorem pathArguments_answers (resolves : paths.ResolvesAs good s) (option : CommandOption)
    (ctx : Context) (entry : Json) :
    Answers good (pathArguments paths option ctx entry)
      (pathArguments (PathLookup.direct s) option ctx entry) := by
  unfold pathArguments
  cases entry with
  | null => exact Answers.pure []
  | str text =>
    dsimp only
    split
    · exact Answers.pure (flagged option.flag text)
    · exact (resolves ctx.root text).bind fun _ => Answers.pure _
  | _ => exact (resolves ctx.root _).bind fun _ => Answers.pure _

theorem render_answers (resolves : paths.ResolvesAs good s) (option : CommandOption)
    (ctx : Context) (value : Json) :
    Answers good (option.render paths ctx value)
      (option.render (PathLookup.direct s) ctx value) := by
  unfold render
  split
  · exact Answers.pure (flagged option.flag value.display)
  · exact (Answers.mapM (pathArguments_answers resolves option ctx) _).bind fun _ => Answers.pure _
  · exact Answers.pure (option.listArguments value)
  · exact Answers.pure (option.switchArguments value)
  · exact Answers.pure (option.repeatArguments value)

theorem arguments_answers (resolves : paths.ResolvesAs good s) (ctx : Context)
    (option : CommandOption) :
    Answers good (arguments paths ctx option) (arguments (PathLookup.direct s) ctx option) := by
  unfold arguments
  split
  · exact Answers.pure []
  · split
    · exact render_answers resolves option ctx _
    · exact render_answers resolves option ctx _

theorem allArguments_answers (resolves : paths.ResolvesAs good s) (ctx : Context)
    (options : List CommandOption) :
    Answers good (allArguments paths ctx options)
      (allArguments (PathLookup.direct s) ctx options) := by
  unfold allArguments
  exact (Answers.mapM (arguments_answers resolves ctx) options).bind fun _ => Answers.pure _

end CommandOption

theorem OptionMap.build_answers (resolves : paths.ResolvesAs good s) (map : OptionMap)
    (ctx : Context) :
    Answers good (map.build paths ctx) (map.build (PathLookup.direct s) ctx) := by
  unfold OptionMap.build
  exact (CommandOption.allArguments_answers resolves ctx map.options).bind fun _ => Answers.pure _

namespace ProjectScanner

theorem excluded_answers (resolves : paths.ResolvesAs good s) (scanner : ProjectScanner)
    (ctx : Context) :
    Answers good (scanner.excluded paths ctx)
      (scanner.excluded (PathLookup.direct s) ctx) := by
  unfold excluded
  exact (Answers.mapM (resolves ctx.root) _).bind fun _ => Answers.pure _

theorem targets_answers (resolves : paths.ResolvesAs good s) (scanner : ProjectScanner)
    (ctx : Context) (left : List Path) :
    Answers good (scanner.targets paths ctx left)
      (scanner.targets (PathLookup.direct s) ctx left) := by
  unfold targets
  split
  · exact Answers.pure []
  · rename_i plan _
    exact plan.targets_answers resolves ctx left

theorem build_answers (resolves : paths.ResolvesAs good s) (scanner : ProjectScanner)
    (ctx : Context) :
    Answers good (scanner.build paths ctx) (scanner.build (PathLookup.direct s) ctx) := by
  unfold build
  refine (excluded_answers resolves scanner ctx).bind fun left => ?_
  refine (CommandOption.allArguments_answers resolves ctx scanner.options).bind fun options => ?_
  exact (targets_answers resolves scanner ctx left).bind fun _ => Answers.pure _

end ProjectScanner

end Builds

inductive Build where
  | optionMap (map : OptionMap) (ctx : Context)
  | projectScanner (scanner : ProjectScanner) (ctx : Context)

namespace Build

def run {m : Type → Type} [Monad m] (paths : PathLookup m) : Build → m Command
  | optionMap map ctx => map.build paths ctx
  | projectScanner scanner ctx => scanner.build paths ctx

theorem run_answers {σ : Type} {good : σ → Prop} {s : Surroundings} {paths : PathLookup (StateM σ)}
    (resolves : paths.ResolvesAs good s) (build : Build) :
    Answers good (build.run paths) (build.run (PathLookup.direct s)) := by
  cases build with
  | optionMap map ctx => exact map.build_answers resolves ctx
  | projectScanner scanner ctx => exact scanner.build_answers resolves ctx

/-- Builds that share one resolver give the commands that each of them gives with a fresh one,
whatever the shared one loses in between. The contexts, and with them the spelling of the roots, are
free; home and current directory are those of `s` throughout. -/
theorem shared_history {σ : Type} (forget : σ × Resolver → σ × Resolver)
    (loses : ∀ memory, Resolver.Loses memory.2 (forget memory).2) (s : Surroundings)
    (start : σ) (capacity own : Nat) (history : List Build) :
    ((history.mapM (run (Resolver.forgetful forget s))).run (start,Resolver.fresh capacity)).1 =
      history.map fun build => ((build.run (Resolver.lookup s)).run (Resolver.fresh own)).1 := by
  have shared := Resolver.forgetful_resolves forget loses s
  have together := Answers.mapM (run_answers shared) history
  rw [(together _ (Resolver.fresh_honest s capacity)).1,List.idRun_mapM]
  apply List.map_congr_left
  intro build _
  have alone := run_answers (Resolver.lookup_resolves s) build
  exact (alone _ (Resolver.fresh_honest s own)).1.symm

def configMap : OptionMap :=
  { base := ["lint"]
    options := [⟨["config"],.path,some "--config",none,none,[],none,none,none⟩]
    appendFiles := true }

def bareSurroundings : Surroundings := ⟨none,⟨"/"⟩,fun _ => false⟩

def configRun (root : Path) (text : String) : Build :=
  .optionMap configMap ⟨root,[("config",.str text)],Config.stock,[],bareSurroundings⟩

def spelledHistory : List Build :=
  [configRun ⟨"/repo"⟩ "a.toml",configRun ⟨"/repo/"⟩ "a.toml",configRun ⟨"/repo/."⟩ "b.toml"]

def keepLast (memory : Unit × Resolver) : Unit × Resolver :=
  (memory.1,{ memory.2 with resolved := memory.2.resolved.take 1 })

theorem keepLast_loses (memory : Unit × Resolver) :
    Resolver.Loses memory.2 (keepLast memory).2 :=
  ⟨List.take_subset 1 memory.2.resolved,List.Subset.refl memory.2.parted⟩

theorem spelledHistory_shared :
    (∀ memory, Resolver.Loses memory.2 (keepLast memory).2) ∧
      ((spelledHistory.mapM (run (Resolver.forgetful keepLast bareSurroundings))).run
          ((),Resolver.fresh 1)).1 =
        spelledHistory.map fun build =>
          ((build.run (Resolver.lookup bareSurroundings)).run (Resolver.fresh 1)).1 :=
  ⟨keepLast_loses,shared_history keepLast keepLast_loses bareSurroundings () 1 1 spelledHistory⟩

end Build
end LintTools
