import LintTools.Proofs.Catalog.Reading
import LintTools.Proofs.Json.Entries
import LintTools.Strategy

/-! Nulls in catalog entries. Under a key that an entry does not have a null changes nothing, whatever
the key is and wherever the entry stands, but for seven keys: two flags are on unless they are given,
three lists and one flag have to be of their shape once they are given, and a constant is one even
if it is null. -/
namespace LintTools
open Reading

inductive NullMeaning (α : Type) where
  | absent
  | changed (change : α → α)
  | refused (fault : Fault)

namespace NullMeaning
variable {α β : Type}

def Holds (meaning : NullMeaning α) (without given : Checked α) : Prop :=
  match meaning with
  | absent => given = without
  | changed change => given = change <$> without
  | refused fault => (∃ other, given = .error other) ∧
      ∀ compiled, without = .ok compiled → given = .error fault

def within (place : (α → α) → β → β) : NullMeaning α → NullMeaning β
  | absent => absent
  | changed change => changed (place change)
  | refused fault => refused fault

theorem Holds.failed {fault : Fault} (without : Checked α) {given : Checked α}
    (failed : given = .error fault) : (refused fault).Holds without given :=
  ⟨⟨fault,failed⟩,fun _ _ => failed⟩

theorem Holds.bind {meaning : NullMeaning β} {first : Checked α} {without given : α → Checked β}
    (each : ∀ value, meaning.Holds (without value) (given value)) :
    meaning.Holds (first >>= without) (first >>= given) := by
  cases first with
  | ok value => exact each value
  | error fault =>
    cases meaning with
    | absent => rfl
    | changed change => rfl
    | refused other => exact ⟨⟨fault,rfl⟩,fun _ read => nomatch read⟩

theorem Holds.within {meaning : NullMeaning α} {without given : Checked α}
    (holds : meaning.Holds without given) (place : (α → α) → β → β) (next : α → Checked β)
    (placed : ∀ change value, next (change value) = place change <$> next value) :
    (meaning.within place).Holds (without >>= next) (given >>= next) := by
  cases meaning with
  | absent => exact congrArg (· >>= next) holds
  | changed change =>
    have same : given = change <$> without := holds
    rw [same]
    cases without with
    | ok value => exact placed change value
    | error fault => rfl
  | refused fault =>
    obtain ⟨⟨other,failed⟩,reason⟩ := holds
    refine ⟨⟨other,by rw [failed]; rfl⟩,?_⟩
    intro compiled read
    cases without with
    | ok value => rw [reason value rfl]; rfl
    | error fault => exact nomatch read

end NullMeaning

inductive EntryPlace where
  | optionMap
  | projectScanner
  | exclusion (scanner : Entries)
  | targetPlan (scanner : Entries)
  | downloadedBinary
  | targetSelector (context : String)
  | option (context : String)
  | fieldRule (field : Field)
  | extractor

namespace EntryPlace

def Compiled : EntryPlace → Type
  | optionMap => OptionMap
  | projectScanner => ProjectScanner
  | exclusion _ => ProjectScanner
  | targetPlan _ => ProjectScanner
  | downloadedBinary => DownloadedBinary
  | targetSelector _ => TargetSelector
  | option _ => CommandOption
  | fieldRule _ => FieldRule
  | extractor => Extractor

def read : (place : EntryPlace) → Entries → Checked place.Compiled
  | optionMap,entry => OptionMap.read (.obj entry)
  | projectScanner,entry => ProjectScanner.read (.obj entry)
  | exclusion scanner,entry => ProjectScanner.read (.obj (scanner.insert "exclude" (.obj entry)))
  | targetPlan scanner,entry => ProjectScanner.read (.obj (scanner.insert "targets" (.obj entry)))
  | downloadedBinary,entry => DownloadedBinary.read (.obj entry)
  | targetSelector context,entry => TargetSelector.read (.obj entry) context
  | option context,entry => CommandOption.read (.obj entry) context
  | fieldRule field,entry => FieldRule.read field (.obj entry)
  | extractor,entry => Extractor.read (.obj entry)

end EntryPlace

def TargetPlan.nullMeaning (context key : String) : NullMeaning TargetPlan :=
  if key = "settings" then .refused ⟨context,.mustBe "settings" .textList⟩
  else if key = "fallback" then .refused ⟨context,.mustBe "fallback" .textList⟩
  else if key = "filterExcluded" then .changed fun plan => { plan with filterExcluded := false }
  else .absent

namespace EntryPlace

/-- A flag that is on by default is off, a list or flag of fixed shape is refused, and a constant is
null. All else is as if there were nothing. -/
def nullMeaning : (place : EntryPlace) → (key : String) → NullMeaning place.Compiled
  | optionMap,key =>
    if key = "appendFiles" then .changed fun map => { map with appendFiles := false } else .absent
  | exclusion _,key =>
    if key = "settings" then
      .refused ⟨ProjectScanner.context,.mustBe "exclude.settings" .textList⟩
    else .absent
  | targetPlan _,key =>
    (TargetPlan.nullMeaning (ProjectScanner.context ++ ".targets") key).within
      fun change scanner => { scanner with plan := scanner.plan.map change }
  | targetSelector context,key =>
    if key = "defaultToRoot" then .refused ⟨context,.mustBe "'defaultToRoot'" .flag⟩ else .absent
  | fieldRule _,key =>
    if key = "value" then .changed fun rule => { rule with source := .constant .null } else .absent
  | projectScanner,_ => .absent
  | downloadedBinary,_ => .absent
  | option _,_ => .absent
  | extractor,_ => .absent

end EntryPlace

/-! Parts of an entry that are read from one key. -/

/-- A part that takes null for absent does not see a null under any missing key. -/
theorem Entries.part_null {α : Type} (entry : Entries) (key : String) (part : Entries → α)
    (name : String)
    (only : ∀ entry other : Entries, entry.get? name = other.get? name → part entry = part other)
    (missing : entry.get? key = none) (blind : part [(name,.null)] = part []) :
    part (entry.insert key .null) = part entry := by
  by_cases here : key = name
  · subst here
    have given : part (entry.insert key .null) = part [(key,.null)] := by
      apply only
      rw [get?_insert,if_pos rfl,get?_cons,if_pos rfl]
    have absent : part entry = part [] := only entry [] missing
    rw [given,absent,blind]
  · exact only _ _ (get?_other entry key name .null here)

section Others
variable (entry : Entries) (key : String) (value : Json)

theorem requireArguments_other (name context : String) (other : key ≠ name) :
    requireArguments (entry.insert key value) name context =
      requireArguments entry name context := by
  rw [requireArguments,Entries.get?_other entry key name value other,requireArguments]

theorem ProjectScanner.readExclude_other (other : key ≠ "exclude") :
    readExclude (entry.insert key value) = readExclude entry := by
  rw [readExclude,Entries.get?_other entry key "exclude" value other,readExclude]

theorem ProjectScanner.readPlan_other (other : key ≠ "targets") :
    readPlan (entry.insert key value) = readPlan entry := by
  rw [readPlan,Entries.get?_other entry key "targets" value other,readPlan]

end Others

section Parts
variable (entry : Entries) (key : String) (missing : entry.get? key = none)
include missing

theorem value_null {α : Type} (read : Option Json → α) (blind : read (some .null) = read none)
    (name : String) : read ((entry.insert key .null).get? name) = read (entry.get? name) := by
  refine Entries.part_null entry key (fun entry => read (entry.get? name)) name ?_ missing ?_
  · exact fun _ _ same => congrArg read same
  · simpa [Entries.get?_cons,Entries.get?_nil] using blind

theorem requireArguments_null (name context : String) :
    requireArguments (entry.insert key .null) name context =
      requireArguments entry name context :=
  Entries.part_null entry key (requireArguments · name context) name
    (fun _ _ same => by simp only [requireArguments,same]) missing
    (by simp [requireArguments,Entries.get?_cons,Entries.get?_nil])

theorem requireObjectAt_null (name context : String) :
    requireObjectAt (entry.insert key .null) name context = requireObjectAt entry name context :=
  Entries.part_null entry key (requireObjectAt · name context) name
    (fun _ _ same => by simp only [requireObjectAt,same]) missing
    (by simp [requireObjectAt,Entries.get?_cons,Entries.get?_nil])

theorem optionalText_null (name context : String) :
    optionalText (entry.insert key .null) name context = optionalText entry name context :=
  value_null entry key missing (optionalTextOr _ · context) rfl name

theorem optionalTrimmed_null (name context : String) :
    optionalTrimmed (entry.insert key .null) name context = optionalTrimmed entry name context := by
  rw [optionalTrimmed,optionalText_null entry key missing,optionalTrimmed]

theorem optionalFilled_null (name context : String) :
    optionalFilled (entry.insert key .null) name context = optionalFilled entry name context :=
  Entries.part_null entry key (optionalFilled · name context) name
    (fun _ _ same => by simp only [optionalFilled,same]) missing
    (by simp [optionalFilled,Entries.get?_cons,Entries.get?_nil])

theorem lenientFlag_null (name : String) :
    lenientFlag (entry.insert key .null) name false = lenientFlag entry name false :=
  Entries.part_null entry key (lenientFlag · name false) name
    (fun _ _ same => by simp only [lenientFlag,same]) missing
    (by simp [lenientFlag,Entries.get?_cons,Entries.get?_nil,Json.isTruthy])

theorem readAll_null (context : String) :
    CommandOption.readAll ((entry.insert key .null).get? "options") context =
      CommandOption.readAll (entry.get? "options") context :=
  value_null entry key missing (CommandOption.readAll · context) rfl "options"

end Parts

namespace FieldRule
variable (field : Field)

def pathIn (value : Option Json) : Checked (Option JsonPath) :=
  match value with
  | none | some .null => .ok none
  | some (.str path) => some <$> readPath false path
  | some _ => fault context (.fieldPathShape field.name)

def dictionaryIn (value : Option Json) : Checked Entries :=
  match value with
  | none | some .null => .ok []
  | some (.obj entries) => .ok (dictionaryOf entries)
  | some _ => fault context (.fieldMapShape field.name)

theorem readEntry_parts (entry : Entries) : readEntry field entry = do
    let path ← pathIn field (entry.get? "path")
    let dictionary ← dictionaryIn field (entry.get? "map")
    return {
      dictionary
      source := match entry.get? "value" with
        | some value => .constant value
        | none => .path path
      stock := Json.present (entry.get? "default") } := by
  -- Each kind of path has the reading of the dictionary behind it, and each of these the same rule.
  simp only [readEntry]
  split <;> split <;> simp only [pathIn,dictionaryIn, *] <;> rfl

/-- A rule comes from a bare path, or from an entry whose parts can be read. -/
theorem read_success (mapping : Json) (rule : FieldRule) (compiled : read field mapping = .ok rule) :
    (∃ text path, mapping = .str text ∧ readPath false text = .ok path ∧
        rule = ⟨.path (some path),none,[]⟩) ∨
      ∃ (entry : Entries) (path : Option JsonPath) (dictionary : Entries), mapping = .obj entry ∧
        pathIn field (entry.get? "path") = .ok path ∧
        dictionaryIn field (entry.get? "map") = .ok dictionary ∧
        rule = {
          dictionary
          source := match entry.get? "value" with
            | some value => .constant value
            | none => .path path
          stock := Json.present (entry.get? "default") } := by
  cases mapping with
  | str text =>
    obtain ⟨path,found,same⟩ := (bind_success _ _ _).mp compiled
    exact .inl ⟨text,path,rfl,found,(Except.ok.inj same).symm⟩
  | obj entry =>
    rw [read,readEntry_parts] at compiled
    obtain ⟨path,found,compiled⟩ := (bind_success _ _ _).mp compiled
    obtain ⟨dictionary,mapped,same⟩ := (bind_success _ _ _).mp compiled
    exact .inr ⟨entry,path,dictionary,rfl,found,mapped,(Except.ok.inj same).symm⟩
  | _ => cases compiled

end FieldRule

section Places
variable (entry : Entries) (key : String) (missing : entry.get? key = none)
include missing

theorem OptionMap.read_null : (EntryPlace.optionMap.nullMeaning key).Holds
    (OptionMap.read (.obj entry)) (OptionMap.read (.obj (entry.insert key .null))) := by
  simp only [OptionMap.read,requireObject,ok_bind,requireArguments_null entry key missing,
    readAll_null entry key missing]
  refine .bind fun base => .bind fun options => ?_
  rw [EntryPlace.nullMeaning]
  split
  next here =>
    subst here
    simp only [lenientFlag,Entries.get?_insert]
    rfl
  next other =>
    simp only [lenientFlag,Entries.get?_other entry key _ _ other]
    rfl

theorem ProjectScanner.read_null :
    ProjectScanner.read (.obj (entry.insert key .null)) = ProjectScanner.read (.obj entry) := by
  have exclude := Entries.part_null entry key readExclude "exclude"
    (fun _ _ same => by simp only [readExclude,same]) missing rfl
  have plan := Entries.part_null entry key readPlan "targets"
    (fun _ _ same => by simp only [readPlan,same]) missing rfl
  simp only [ProjectScanner.read,requireObject,ok_bind,requireArguments_null entry key missing,
    readAll_null entry key missing,exclude,plan]

theorem DownloadedBinary.read_null :
    DownloadedBinary.read (.obj (entry.insert key .null)) = DownloadedBinary.read (.obj entry) := by
  have placeholder := value_null entry key missing (filledTextOr stockPlaceholder
    (.mustBe "'binaryPlaceholder'" .filledText) · context) rfl "binaryPlaceholder"
  have base := Entries.part_null entry key readBase "base"
    (fun _ _ same => by simp only [readBase,same]) missing rfl
  have selector := Entries.part_null entry key readSelector "targets"
    (fun _ _ same => by simp only [readSelector,same]) missing rfl
  simp only [DownloadedBinary.read,requireObject,ok_bind,requireObjectAt_null entry key missing,
    placeholder,base,selector,optionalText_null entry key missing,readAll_null entry key missing]

theorem CommandOption.read_null (context : String) :
    CommandOption.read (.obj (entry.insert key .null)) context =
      CommandOption.read (.obj entry) context := by
  have settings := Entries.part_null entry key (readSettings · context) "setting"
    (fun _ _ same => by simp only [readSettings,same]) missing rfl
  have kind := Entries.part_null entry key (readKind · context) "type"
    (fun _ _ same => by simp only [readKind,same]) missing rfl
  have literals := Entries.part_null entry key (readLiterals · context) "literalValues"
    (fun _ _ same => by simp only [readLiterals,same]) missing rfl
  have transform := Entries.part_null entry key (readTransform · context) "transform"
    (fun _ _ same => by simp only [readTransform,same]) missing rfl
  have stock := value_null entry key missing Json.present rfl "default"
  simp only [CommandOption.read,requireObject,ok_bind,settings,kind,literals,transform,stock,
    optionalTrimmed_null entry key missing]

theorem TargetSelector.read_null (context : String) :
    ((EntryPlace.targetSelector context).nullMeaning key).Holds
      (TargetSelector.read (.obj entry) context)
      (TargetSelector.read (.obj (entry.insert key .null)) context) := by
  have kind := Entries.part_null entry key (checkKind · context) "type"
    (fun _ _ same => by simp only [checkKind,same]) missing rfl
  have texts (field : String) :=
    value_null entry key missing (strictTexts · field context) rfl field
  simp only [TargetSelector.read,requireObject,ok_bind,kind,texts,
    optionalFilled_null entry key missing]
  refine .bind fun _ => .bind fun suffixes => .bind fun contains =>
    .bind fun required => .bind fun fallback => ?_
  rw [EntryPlace.nullMeaning]
  split
  next here =>
    subst here
    simp only [strictFlag,Entries.get?_insert,missing]
    exact .failed _ rfl
  next other =>
    simp only [strictFlag,Entries.get?_other entry key _ _ other]
    rfl

theorem Extractor.read_null :
    Extractor.read (.obj (entry.insert key .null)) = Extractor.read (.obj entry) := by
  have path := Entries.part_null entry key readItemPath "path"
    (fun _ _ same => by simp only [readItemPath,same]) missing rfl
  have format := Entries.part_null entry key readFormat "inputFormat"
    (fun _ _ same => by simp only [readFormat,same]) missing rfl
  simp only [Extractor.read,requireObject,ok_bind,path,format,requireObjectAt_null entry key missing]

theorem FieldRule.read_null (field : Field) : ((EntryPlace.fieldRule field).nullMeaning key).Holds
    (FieldRule.read field (.obj entry)) (FieldRule.read field (.obj (entry.insert key .null))) := by
  have path := value_null entry key missing (pathIn field) rfl "path"
  have dictionary := value_null entry key missing (dictionaryIn field) rfl "map"
  have stock := value_null entry key missing Json.present rfl "default"
  simp only [read,readEntry_parts,path,dictionary,stock]
  refine .bind fun path => .bind fun dictionary => ?_
  rw [EntryPlace.nullMeaning]
  split
  next here =>
    subst here
    simp only [Entries.get?_insert,if_true]
    rfl
  next other =>
    simp only [Entries.get?_other entry key _ _ other]
    rfl

theorem ProjectScanner.read_exclusion_null (scanner : Entries) :
    ((EntryPlace.exclusion scanner).nullMeaning key).Holds
      (ProjectScanner.read (.obj (scanner.insert "exclude" (.obj entry))))
      (ProjectScanner.read (.obj (scanner.insert "exclude" (.obj (entry.insert key .null))))) := by
  have exclude (entry : Entries) :
      readExclude (scanner.insert "exclude" (.obj entry)) = .ok entry := by
    simp only [readExclude,Entries.get?_insert,if_true]
  have flag := value_null entry key missing
    (optionalTextOr (.mustBeWhenProvided "exclude.flag" .text) · context) rfl "flag"
  have separator := value_null entry key missing
    (filledTextOr "," (.mustBe "exclude.separator" .filledText) · context) rfl "separator"
  simp (disch := decide) only [ProjectScanner.read,requireObject,ok_bind,requireArguments_other,
    Entries.get?_other scanner,readPlan_other,exclude,flag,separator,
    lenientFlag_null entry key missing]
  refine .bind fun base => .bind fun options => .bind fun flag =>
    .bind fun separator => .bind fun plan => ?_
  rw [EntryPlace.nullMeaning]
  split
  next here =>
    subst here
    simp only [Entries.get?_insert,missing,if_true,looseTexts]
    exact .failed _ rfl
  next other =>
    simp only [Entries.get?_other entry key _ _ other]
    rfl

theorem TargetPlan.read_null (context : String) : (TargetPlan.nullMeaning context key).Holds
    (TargetPlan.read (.obj entry) context)
    (TargetPlan.read (.obj (entry.insert key .null)) context) := by
  have leader := value_null entry key missing
    (optionalTextOr (.mustBeWhenProvided "prefix" .text) · context) rfl "prefix"
  simp only [TargetPlan.read,requireObject,ok_bind,leader,lenientFlag_null entry key missing]
  refine .bind fun leader => ?_
  rw [TargetPlan.nullMeaning]
  split
  next here =>
    subst here
    simp only [Entries.get?_insert,missing,if_true,looseTexts]
    exact .failed _ rfl
  next settings =>
    rw [Entries.get?_other entry key "settings" .null settings]
    refine .bind fun settings => ?_
    split
    next here =>
      subst here
      simp only [Entries.get?_insert,missing,if_true,looseTexts]
      exact .failed _ rfl
    next fallback =>
      rw [Entries.get?_other entry key "fallback" .null fallback]
      refine .bind fun fallback => ?_
      split
      next here =>
        subst here
        simp only [lenientFlag,Entries.get?_insert,if_true]
        rfl
      next other =>
        simp only [lenientFlag,Entries.get?_other entry key _ _ other]
        rfl

theorem ProjectScanner.read_plan_null (scanner : Entries) :
    ((EntryPlace.targetPlan scanner).nullMeaning key).Holds
      (ProjectScanner.read (.obj (scanner.insert "targets" (.obj entry))))
      (ProjectScanner.read (.obj (scanner.insert "targets" (.obj (entry.insert key .null))))) := by
  have plan (entry : Entries) : readPlan (scanner.insert "targets" (.obj entry)) =
      some <$> TargetPlan.read (.obj entry) (context ++ ".targets") := by
    simp only [readPlan,Entries.get?_insert,if_true]
  simp (disch := decide) only [ProjectScanner.read,requireObject,ok_bind,requireArguments_other,
    Entries.get?_other scanner,readExclude_other,plan]
  refine .bind fun base => .bind fun options => .bind fun exclude =>
    .bind fun flag => .bind fun separator => ?_
  simp only [map_eq_pure_bind,bind_assoc,pure_bind]
  -- Only the settings to leave out are read behind the plan, and they may still be refused.
  refine (TargetPlan.read_null entry key missing _).within _ _ fun change plan => ?_
  cases looseTexts (exclude.get? "settings") context (.mustBe "exclude.settings" .textList) with
  | ok texts => rfl
  | error fault => rfl

end Places

/-- Under a key that an entry does not have a null is absent, except under those seven keys. -/
theorem EntryPlace.entry_with_null (place : EntryPlace) (entry : Entries) (key : String)
    (missing : entry.get? key = none) :
    (place.nullMeaning key).Holds (place.read entry) (place.read (entry.insert key .null)) := by
  cases place with
  | optionMap => exact OptionMap.read_null entry key missing
  | projectScanner => exact ProjectScanner.read_null entry key missing
  | exclusion scanner => exact ProjectScanner.read_exclusion_null entry key missing scanner
  | targetPlan scanner => exact ProjectScanner.read_plan_null entry key missing scanner
  | downloadedBinary => exact DownloadedBinary.read_null entry key missing
  | targetSelector context => exact TargetSelector.read_null entry key missing context
  | option context => exact CommandOption.read_null entry key missing context
  | fieldRule field => exact FieldRule.read_null entry key missing field
  | extractor => exact Extractor.read_null entry key missing

def settingScanner : Entries := [("base",.arr [.str "scan"])]

def settingTargets : Entries := [("settings",.arr [.str "paths"])]

theorem EntryPlace.filterExcluded_null :
    settingTargets.get? "filterExcluded" = none ∧
      (targetPlan settingScanner).read (settingTargets.insert "filterExcluded" .null) =
        (fun scanner : ProjectScanner => { scanner with
          plan := scanner.plan.map fun plan => { plan with filterExcluded := false } }) <$>
          (targetPlan settingScanner).read settingTargets :=
  ⟨by decide,entry_with_null (targetPlan settingScanner) settingTargets "filterExcluded" (by decide)⟩

def callerRun : Context where
  root := ⟨"/work"⟩
  settings := []
  config := Config.stock
  files := [⟨"a.py"⟩]
  surroundings := ⟨none,⟨"/work"⟩,fun _ => false⟩

/-- With a null for the flag the caller's files are lost, without it they are appended. -/
theorem OptionMap.appendFiles_null_differs :
    let entry : Entries := [("base",.arr [.str "tool"])]
    entry.get? "appendFiles" = none ∧
      ∃ without given, OptionMap.read (.obj entry) = .ok without ∧
        OptionMap.read (.obj (entry.insert "appendFiles" .null)) = .ok given ∧
        (without.build (PathLookup.direct callerRun.surroundings) callerRun).run =
          ["tool","a.py"] ∧
        (given.build (PathLookup.direct callerRun.surroundings) callerRun).run = ["tool"] :=
  ⟨by decide,⟨["tool"],[],true⟩,⟨["tool"],[],false⟩,rfl,rfl,by decide +kernel,by decide +kernel⟩

end LintTools
