import LintTools.CommandOption.Arguments
import LintTools.Proofs.Text.Sorted

/-! Runs that differ only in how their lists are arranged: the settings that no option reads, the
lists of discovery, and the files of the caller. Options give the same arguments in both, as they
read none of these. -/
namespace LintTools

inductive RearrangedSetting : Option Json → Option Json → Prop
  | same (setting) : RearrangedSetting setting setting
  | list (items others) (same : SameElements items others) :
      RearrangedSetting (some (.arr items)) (some (.arr others))

namespace RearrangedSetting
variable {setting other : Option Json}

theorem present (rearranged : RearrangedSetting setting other) :
    RearrangedSetting (Json.present setting) (Json.present other) := by
  cases rearranged with
  | same => exact .same _
  | list items others same => exact .list items others same

theorem or {fallback otherFallback : Option Json} (rearranged : RearrangedSetting setting other)
    (behind : RearrangedSetting fallback otherFallback) :
    RearrangedSetting (setting.or fallback) (other.or otherFallback) := by
  cases rearranged with
  | same setting =>
    cases setting with
    | none => exact behind
    | some value => exact .same (some value)
  | list items others same => exact .list items others same

theorem texts (rearranged : RearrangedSetting setting other) :
    SameElements ((setting.map Json.toTexts).getD []) ((other.map Json.toTexts).getD []) := by
  cases rearranged with
  | same setting => exact fun text => Iff.rfl
  | list items others same =>
    intro text
    change text ∈ items.filterMap Json.display? ↔ text ∈ others.filterMap Json.display?
    rw [List.mem_filterMap,List.mem_filterMap]
    exact same.exists_iff fun item => item.display? = some text

end RearrangedSetting

/-- The names under which an option looks for its value: as they are listed, and with underscores
for dashes. -/
def CommandOption.Reads (option : CommandOption) (name : String) : Prop :=
  ∃ listed, (listed ∈ option.settings ∨ option.defaultFrom = some (.toolSetting listed)) ∧
    (name = listed ∨ name = Text.replaceChar '-' '_' listed)

/-- Runs below one root whose lists may be arranged differently. The settings in `read` are equal,
and so is the configuration apart from discovery. -/
structure Context.Rearranged (read : String → Prop) (ctx other : Context) : Prop where
  root : ctx.root = other.root
  surroundings : ctx.surroundings = other.surroundings
  execution : ctx.config.execution = other.config.execution
  complexity : ctx.config.complexity = other.config.complexity
  severity : ctx.config.severity = other.config.severity
  typeChecking : ctx.config.typeChecking = other.config.typeChecking
  fixed : ∀ name, read name → ctx.settings.get? name = other.settings.get? name
  settings : ∀ name, RearrangedSetting (ctx.settings.get? name) (other.settings.get? name)
  roots : SameElements ctx.config.discovery.roots other.config.discovery.roots
  excludes : SameElements ctx.config.discovery.excludes other.config.discovery.excludes
  explicitFiles :
    SameElements ctx.config.discovery.explicitFiles other.config.discovery.explicitFiles
  files : SameElements ctx.files other.files

namespace Context

/-- A setting depends on what stands under its names and under their underscored forms. -/
theorem setting_congr (ctx other : Context) (names : List String)
    (alike : ∀ listed ∈ names, ∀ name, name = listed ∨ name = Text.replaceChar '-' '_' listed →
      ctx.settings.get? name = other.settings.get? name) :
    ctx.setting? names = other.setting? names := by
  induction names with
  | nil => rfl
  | cons first names ih =>
    have later := ih fun listed member => alike listed (List.mem_cons_of_mem first member)
    have plain := alike first List.mem_cons_self _ (.inl rfl)
    have dashed := alike first List.mem_cons_self _ (.inr rfl)
    have spelled : ctx.settingSpelled? first = other.settingSpelled? first := by
      rw [settingSpelled?,settingSpelled?,settingNamed?,settingNamed?,settingNamed?,settingNamed?,
        plain,dashed]
    simp only [setting?,List.findSome?_cons,spelled] at later ⊢
    rw [later]

/-- Runs below one root whose configurations differ in discovery at most. An option takes no more than
this from the run once its value is found. -/
structure SameBasis (ctx other : Context) : Prop where
  root : ctx.root = other.root
  execution : ctx.config.execution = other.config.execution
  complexity : ctx.config.complexity = other.config.complexity
  severity : ctx.config.severity = other.config.severity
  typeChecking : ctx.config.typeChecking = other.config.typeChecking

namespace SameBasis
variable {ctx other : Context} (basis : ctx.SameBasis other)
include basis

theorem defaultValue (reference : DefaultReference)
    (named : ∀ listed, reference = .toolSetting listed →
      ctx.setting? [listed] = other.setting? [listed]) :
    reference.value? ctx = reference.value? other := by
  cases reference with
  | fixed source =>
    cases source <;> simp only [DefaultReference.value?,StaticDefault.value?,basis.root,
      basis.execution,basis.complexity,basis.severity,basis.typeChecking]
  | computed source =>
    simp only [DefaultReference.value?,DynamicDefault.value?,DynamicDefault.plugins?,
      PythonVersion.target,basis.execution]
  | toolSetting listed => exact named listed rfl
  | unknown token => rfl

theorem transformed (transform : Transform) (value : Json) :
    transform.apply value ctx = transform.apply value other := by
  have version : Transform.versionOf value ctx = Transform.versionOf value other := by
    rw [Transform.versionOf,Transform.versionOf,PythonVersion.target,PythonVersion.target,
      basis.execution]
  cases transform <;> simp only [Transform.apply,version]

section Options
variable {m : Type → Type} [Monad m] (paths : PathLookup m)

theorem rendered (option : CommandOption) (value : Json) :
    option.render paths ctx value = option.render paths other value := by
  have each (entry : Json) : CommandOption.pathArguments paths option ctx entry =
      CommandOption.pathArguments paths option other entry := by
    unfold CommandOption.pathArguments
    rw [basis.root]
  unfold CommandOption.render
  rw [funext each]

/-- An option that has the same value in both runs gives the same arguments. -/
theorem optionArguments (option : CommandOption) (same : option.value? ctx = option.value? other) :
    CommandOption.arguments paths ctx option = CommandOption.arguments paths other option := by
  unfold CommandOption.arguments
  rw [same]
  cases option.value? other with
  | none => rfl
  | some value =>
    cases option.transform with
    | none => exact basis.rendered paths option value
    | some transform =>
      dsimp only
      rw [basis.transformed transform value]
      exact basis.rendered paths option _

end Options
end SameBasis

namespace Rearranged
variable {read : String → Prop} {ctx other : Context} (rearranged : ctx.Rearranged read other)
include rearranged

theorem basis : ctx.SameBasis other :=
  ⟨rearranged.root,rearranged.execution,rearranged.complexity,rearranged.severity,
    rearranged.typeChecking⟩

theorem settingTexts (name : String) :
    SameElements (ctx.settingTexts name) (other.settingTexts name) := by
  have spelled : RearrangedSetting (ctx.settingSpelled? name) (other.settingSpelled? name) :=
    (rearranged.settings name).present.or (rearranged.settings _).present
  simp only [Context.settingTexts,setting?,List.findSome?_singleton]
  exact spelled.texts

/-- The value of an option all of whose names are in `read`. -/
theorem optionValue (option : CommandOption) (reads : ∀ name, option.Reads name → read name) :
    option.value? ctx = option.value? other := by
  have alike (listed : String) (given : listed ∈ option.settings ∨
      option.defaultFrom = some (.toolSetting listed)) (name : String)
      (spelled : name = listed ∨ name = Text.replaceChar '-' '_' listed) :
      ctx.settings.get? name = other.settings.get? name :=
    rearranged.fixed name (reads name ⟨listed,given,spelled⟩)
  have setting := setting_congr ctx other option.settings fun listed member =>
    alike listed (.inl member)
  have default : option.defaultFrom.bind (·.value? ctx) = option.defaultFrom.bind (·.value? other) :=
    Option.bind_congr fun reference given => rearranged.basis.defaultValue reference fun listed named =>
      setting_congr ctx other [listed] fun single member => by
        rw [List.mem_singleton.mp member]
        exact alike listed (.inr (named ▸ given))
  rw [CommandOption.value?,CommandOption.value?,setting,default]

section Options
variable {m : Type → Type} [Monad m] (paths : PathLookup m)

/-- Options whose names are all in `read` give the same arguments. -/
theorem allArguments [LawfulMonad m] (options : List CommandOption)
    (reads : ∀ option ∈ options, ∀ name, option.Reads name → read name) :
    CommandOption.allArguments paths ctx options =
      CommandOption.allArguments paths other options := by
  have each : options.mapM (CommandOption.arguments paths ctx) =
      options.mapM (CommandOption.arguments paths other) := by
    induction options with
    | nil => rfl
    | cons option options ih =>
      have first := rearranged.basis.optionArguments paths option
        (rearranged.optionValue option (reads option List.mem_cons_self))
      have later := ih fun option member => reads option (List.mem_cons_of_mem _ member)
      rw [List.mapM_cons,List.mapM_cons,first,later]
  rw [CommandOption.allArguments,CommandOption.allArguments,each]

end Options
end Rearranged
end Context
end LintTools
