import LintTools.Proofs.Command.Layout
import LintTools.Proofs.Invocation.Rearrangement

/-! Where the value of an option comes from. Of the names that it is looked up under the first one that
holds anything decides. What stands under later names makes no difference, and neither do the
defaults once a setting of the option is there. -/
namespace LintTools

namespace Context

def spellings (name : String) : List String := [name,Text.replaceChar '-' '_' name]

def firstPresent? (ctx : Context) (names : List String) : Option (String × Json) :=
  names.findSome? fun name => (ctx.settingNamed? name).map (name,·)

theorem firstPresent?_append (ctx : Context) (names later : List String) :
    ctx.firstPresent? (names ++ later) = (ctx.firstPresent? names).or (ctx.firstPresent? later) :=
  List.findSome?_append

theorem firstPresent?_spellings (ctx : Context) (name : String) :
    (ctx.firstPresent? (spellings name)).map (·.2) = ctx.settingSpelled? name := by
  simp only [firstPresent?,spellings,settingSpelled?,List.findSome?_cons,List.findSome?_nil]
  cases ctx.settingNamed? name with
  | some value => rfl
  | none => cases ctx.settingNamed? (Text.replaceChar '-' '_' name) <;> rfl

theorem setting?_eq (ctx : Context) (names : List String) :
    ctx.setting? names = (ctx.firstPresent? (names.flatMap spellings)).map (·.2) := by
  induction names with
  | nil => rfl
  | cons name names ih =>
    have cut : ctx.setting? (name :: names) = (ctx.settingSpelled? name).or (ctx.setting? names) := by
      rw [setting?,List.findSome?_cons]
      cases ctx.settingSpelled? name <;> rfl
    rw [cut,ih,List.flatMap_cons,firstPresent?_append,Option.map_or,firstPresent?_spellings]

/-- Runs with the same root, configuration, home and current directory. Their settings, their files
and what exists around them may differ. -/
structure CommonGround (ctx other : Context) : Prop where
  root : ctx.root = other.root
  config : ctx.config = other.config
  home : ctx.surroundings.home = other.surroundings.home
  currentDirectory : ctx.surroundings.currentDirectory = other.surroundings.currentDirectory

theorem CommonGround.basis {ctx other : Context} (ground : ctx.CommonGround other) :
    ctx.SameBasis other := by
  obtain ⟨root,config,_,_⟩ := ground
  exact ⟨root,by rw [config],by rw [config],by rw [config],by rw [config]⟩

end Context

namespace CommandOption

def aliases (option : CommandOption) : List String := option.settings.flatMap Context.spellings

def standIns (option : CommandOption) : List String :=
  match option.stock, option.defaultFrom with
  | none, some (.toolSetting name) => Context.spellings name
  | _, _ => []

def names (option : CommandOption) : List String := option.aliases ++ option.standIns

def settled? (option : CommandOption) (ctx : Context) : Option Json :=
  match option.stock, option.defaultFrom with
  | some value, _ => some value
  | none, some (.toolSetting _) => none
  | none, reference => reference.bind (·.value? ctx)

theorem value?_eq (option : CommandOption) (ctx : Context) :
    option.value? ctx = ((ctx.firstPresent? option.names).map (·.2)).or (option.settled? ctx) := by
  rw [value?,Context.setting?_eq,names,Context.firstPresent?_append,Option.map_or,← aliases,
    Option.or_assoc,Option.or_assoc]
  congr 1
  unfold standIns settled?
  cases option.stock with
  | some value => rfl
  | none =>
    rcases option.defaultFrom with _ | reference
    · rfl
    · cases reference with
      | toolSetting name =>
        change ctx.setting? [name] = _
        rw [Context.setting?_eq,List.flatMap_singleton,Option.or_none]
      | fixed source => rfl
      | computed source => rfl
      | unknown token => rfl

theorem value?_of_alias (option : CommandOption) (ctx : Context) (name : String) (value : Json)
    (present : ctx.firstPresent? option.aliases = some (name,value)) :
    option.value? ctx = some value := by
  rw [value?,Context.setting?_eq,← aliases,present]
  rfl

theorem settled?_congr (option : CommandOption) (ctx other : Context)
    (basis : ctx.SameBasis other) : option.settled? ctx = option.settled? other := by
  unfold settled?
  split
  · rfl
  · rfl
  · rename_i reference _ elsewhere
    refine Option.bind_congr fun source given => basis.defaultValue source fun listed named => ?_
    exact absurd (named ▸ given) (elsewhere listed)

theorem value?_congr (option : CommandOption) (ctx other : Context) (basis : ctx.SameBasis other)
    (decided : ctx.firstPresent? option.names = other.firstPresent? option.names) :
    option.value? ctx = option.value? other := by
  rw [value?_eq,value?_eq,decided,settled?_congr option ctx other basis]

theorem arguments_withDefaults {m : Type → Type} [Monad m] (paths : PathLookup m)
    (option : CommandOption) (ctx : Context) (stock : Option Json)
    (defaultFrom : Option DefaultReference)
    (same : CommandOption.value? { option with stock, defaultFrom } ctx = option.value? ctx) :
    arguments paths ctx { option with stock, defaultFrom } = arguments paths ctx option := by
  unfold arguments
  rw [same]
  rfl

/-- An option adds the same in two runs with common ground if the first of its names that holds
anything is the same in both and holds the same. If that is one of its own settings, this is so
whatever its defaults are. -/
theorem first_present_decides (option : CommandOption) (ctx other : Context)
    (ground : ctx.CommonGround other) (resolver otherResolver : Resolver)
    (reached : Resolver.Reached ctx.surroundings resolver)
    (otherReached : Resolver.Reached other.surroundings otherResolver)
    (decided : ctx.firstPresent? option.names = other.firstPresent? option.names) :
    option.alone ctx resolver = option.alone other otherResolver ∧
      ((ctx.firstPresent? option.aliases).isSome → ∀ stock defaultFrom,
        CommandOption.alone ctx resolver { option with stock, defaultFrom } =
          option.alone other otherResolver) := by
  have plain := PathLookup.direct_congr _ _ ground.home ground.currentDirectory
  have value := value?_congr option ctx other ground.basis decided
  have same : option.alone ctx resolver = option.alone other otherResolver := by
    rw [alone_eq ctx resolver reached.honest,alone_eq other otherResolver otherReached.honest,plain,
      ground.basis.optionArguments _ option value]
  refine ⟨same,?_⟩
  intro given stock defaultFrom
  obtain ⟨⟨name,value⟩,present⟩ := Option.isSome_iff_exists.mp given
  have own := value?_of_alias option ctx name value present
  have changed := value?_of_alias { option with stock, defaultFrom } ctx name value present
  rw [← same,alone_eq ctx resolver reached.honest,alone_eq ctx resolver reached.honest,
    arguments_withDefaults _ option ctx stock defaultFrom (changed.trans own.symm)]

def configOption : CommandOption where
  settings := ["config-file","rc"]
  kind := .path
  flag := some "--config="
  joinWith := none
  negateFlag := none
  literalValues := []
  stock := none
  defaultFrom := some (.toolSetting "rules-file")
  transform := none

def underscoredRun : Context where
  root := ⟨"proj/."⟩
  settings := [("config-file",.null),("config_file",.str "a.toml"),("rc",.bool false)]
  config := Config.stock
  files := [⟨"x.py"⟩]
  surroundings := ⟨none,⟨"/work"⟩,fun _ => false⟩

def crowdedRun : Context where
  root := ⟨"proj/."⟩
  settings := [("config_file",.str "a.toml"),("rules-file",.str "b.toml")]
  config := Config.stock
  files := []
  surroundings := ⟨none,⟨"/work"⟩,fun _ => true⟩

theorem underscoredRun_decided :
    underscoredRun.CommonGround crowdedRun ∧
      underscoredRun.firstPresent? configOption.names =
        crowdedRun.firstPresent? configOption.names ∧
      configOption.alone underscoredRun (Resolver.fresh 8) =
        configOption.alone crowdedRun (Resolver.fresh 4) ∧
      CommandOption.alone underscoredRun (Resolver.fresh 8)
          { configOption with stock := some (.str "c.toml"), defaultFrom := none } =
        configOption.alone crowdedRun (Resolver.fresh 4) ∧
      configOption.alone crowdedRun (Resolver.fresh 4) = ["--config=/work/proj/a.toml"] := by
  have ground : underscoredRun.CommonGround crowdedRun := ⟨rfl,rfl,rfl,rfl⟩
  have decided : underscoredRun.firstPresent? configOption.names =
      crowdedRun.firstPresent? configOption.names := rfl
  have same := first_present_decides configOption underscoredRun crowdedRun ground
    (Resolver.fresh 8) (Resolver.fresh 4) (.fresh 8) (.fresh 4) decided
  exact ⟨ground,decided,same.1,same.2 rfl (some (.str "c.toml")) none,by decide +kernel⟩

end CommandOption
end LintTools
