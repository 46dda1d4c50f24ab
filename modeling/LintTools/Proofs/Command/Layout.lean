import LintTools.Proofs.Catalog.Reading
import LintTools.Proofs.Command.Sharing
import LintTools.Proofs.Target.Sharing
import LintTools.Strategy

/-! Layout of a command: its start, what it leaves out, what each option adds on its own, and its
targets, in this order. Options only resolve paths, so neither another option nor any other part of
the command can tell that they are there. -/
namespace LintTools

def CommandOption.alone (ctx : Context) (resolver : Resolver) (option : CommandOption) :
    List String :=
  ((OptionMap.build (Resolver.lookup ctx.surroundings) ⟨[],[option],false⟩ ctx).run resolver).1

namespace CommandStrategy

def name : CommandStrategy → String
  | optionMap _ => "command_option_map"
  | projectScanner _ => "command_project_scanner"
  | downloadedBinary _ => "command_download_binary"

def base : CommandStrategy → List String
  | optionMap map => map.base
  | projectScanner scanner => scanner.base
  | downloadedBinary binary => binary.base

def options : CommandStrategy → List CommandOption
  | optionMap map => map.options
  | projectScanner scanner => scanner.options
  | downloadedBinary binary => binary.options

def withOptions (options : List CommandOption) : CommandStrategy → CommandStrategy
  | optionMap map => optionMap { map with options }
  | projectScanner scanner => projectScanner { scanner with options }
  | downloadedBinary binary => downloadedBinary { binary with options }

structure Frame where
  start : List String
  exclusion : List String
  targets : List String

def frame (provider : ArtifactProvider) (ctx : Context) (resolver : Resolver) :
    CommandStrategy → Except ArtifactError Frame
  | optionMap map => .ok ⟨map.base,[],map.files ctx⟩
  | projectScanner scanner =>
    let excluded := ((scanner.excluded (Resolver.lookup ctx.surroundings) ctx).run resolver).1
    .ok ⟨scanner.base,scanner.exclusion ctx excluded,
      ((scanner.targets (Resolver.lookup ctx.surroundings) ctx excluded).run resolver).1⟩
  | downloadedBinary binary => (provider (binary.request ctx)).map fun path =>
    ⟨binary.base.map fun part => if part = binary.placeholder then path.text else part,[],
      ((binary.targets (Resolver.lookup ctx.surroundings) ctx).run resolver).1⟩

end CommandStrategy

def optionEntries (config : Entries) : List Json :=
  match config.get? "options" with
  | some (.arr entries) => entries
  | _ => []

def CommandOption.ReadFrom (entries : List Json) (options : List CommandOption) : Prop :=
  List.Forall₂ (fun entry option => ∃ place, CommandOption.read entry place = .ok option) entries
    options

theorem CommandOption.readFrom_each (context : String) (index : Nat) (entries : List Json)
    (options : List CommandOption) (compiled : readFrom context index entries = .ok options) :
    ReadFrom entries options := by
  induction entries generalizing index options with
  | nil =>
    obtain rfl := Except.ok.inj compiled
    exact .nil
  | cons entry entries ih =>
    rw [readFrom,Reading.bind_success] at compiled
    obtain ⟨option,first,compiled⟩ := compiled
    obtain ⟨others,later,rest⟩ := (Reading.bind_success _ _ _).mp compiled
    obtain rfl := Except.ok.inj rest
    exact .cons ⟨_,first⟩ (ih (index + 1) others later)

theorem CommandOption.readAll_each (config : Entries) (context : String)
    (options : List CommandOption) (compiled : readAll (config.get? "options") context = .ok options) :
    ReadFrom (optionEntries config) options := by
  unfold readAll at compiled
  unfold optionEntries
  generalize config.get? "options" = value at compiled
  split at compiled
  · obtain rfl := Except.ok.inj compiled
    exact .nil
  · obtain rfl := Except.ok.inj compiled
    exact .nil
  · exact readFrom_each context 0 _ options compiled
  · cases compiled

theorem DownloadedBinary.mem_withPlaceholder (placeholder : String) (given : List String)
    (part : String) : part ∈ withPlaceholder placeholder given ↔ part = placeholder ∨ part ∈ given := by
  unfold withPlaceholder
  split
  · rename_i mentioned
    constructor
    · exact .inr
    · rintro (rfl | listed)
      · exact List.contains_iff_mem.mp mentioned
      · exact listed
  · exact List.mem_cons

theorem DownloadedBinary.read_success (config : Json) (binary : DownloadedBinary)
    (compiled : read config = .ok binary) : ∃ (entry : Entries) (given : List String),
      config = .obj entry ∧ readBase entry = .ok given ∧
      binary.base = withPlaceholder binary.placeholder given ∧
      CommandOption.readAll (entry.get? "options") (context ++ ".options") = .ok binary.options := by
  simp only [read,Reading.bind_success,Reading.pure_success] at compiled
  obtain ⟨entry,object,_,_,_,_,given,listed,_,_,_,_,_,mapped,rfl⟩ := compiled
  exact ⟨entry,given,requireObject_success config _ _ entry object,listed,rfl,mapped⟩

namespace CommandStrategy

structure Declared (config : Json) (strategy : CommandStrategy) : Prop where
  started : strategy.base ≠ []
  mentioned : ∀ binary, strategy = .downloadedBinary binary → binary.placeholder ∈ binary.base
  options : ∃ entries, config = .obj entries ∧
    CommandOption.ReadFrom (optionEntries entries) strategy.options

theorem optionMap_declared (config : Json) (map : OptionMap)
    (compiled : OptionMap.read config = .ok map) : Declared config (.optionMap map) := by
  simp only [OptionMap.read,Reading.bind_success,Reading.pure_success] at compiled
  obtain ⟨entry,object,base,arguments,options,mapped,rfl⟩ := compiled
  refine ⟨requireArguments_filled entry _ _ base arguments,?_,entry,?_,?_⟩
  · intro binary other
    contradiction
  · exact requireObject_success config _ _ entry object
  · exact CommandOption.readAll_each entry _ options mapped

theorem projectScanner_declared (config : Json) (scanner : ProjectScanner)
    (compiled : ProjectScanner.read config = .ok scanner) :
    Declared config (.projectScanner scanner) := by
  simp only [ProjectScanner.read,Reading.bind_success,Reading.pure_success] at compiled
  obtain ⟨entry,object,base,arguments,options,mapped,compiled⟩ := compiled
  obtain ⟨_,_,_,_,_,_,_,_,_,_,rfl⟩ := compiled
  refine ⟨requireArguments_filled entry _ _ base arguments,?_,entry,?_,?_⟩
  · intro binary other
    contradiction
  · exact requireObject_success config _ _ entry object
  · exact CommandOption.readAll_each entry _ options mapped

theorem downloadedBinary_declared (config : Json) (binary : DownloadedBinary)
    (compiled : DownloadedBinary.read config = .ok binary) :
    Declared config (.downloadedBinary binary) := by
  obtain ⟨entry,given,object,_,based,mapped⟩ := DownloadedBinary.read_success config binary compiled
  have mentioned : binary.placeholder ∈ binary.base := by
    rw [based,DownloadedBinary.mem_withPlaceholder]
    exact .inl rfl
  refine ⟨List.ne_nil_of_mem mentioned,?_,entry,object,?_⟩
  · intro other same
    obtain rfl := CommandStrategy.downloadedBinary.inj same
    exact mentioned
  · exact CommandOption.readAll_each entry _ binary.options mapped

theorem read_declared (name : String) (config : Json) (strategy : CommandStrategy)
    (compiled : Strategy.read name config = .ok (.command strategy)) :
    strategy.name = name ∧ Declared config strategy := by
  unfold Strategy.read at compiled
  split at compiled
  · rename_i reader found
    have member := Resolver.lookup_mem name reader Strategy.registry found
    simp only [Strategy.registry,List.mem_cons,Prod.mk.injEq,List.not_mem_nil,or_false] at member
    rcases member with kind | kind | kind | kind | kind | kind | kind
    · obtain ⟨rfl,rfl⟩ := kind
      obtain ⟨binary,read,same⟩ := (Reading.map_success _ _ _).mp compiled
      obtain rfl := Strategy.command.inj same
      exact ⟨rfl,downloadedBinary_declared config binary read⟩
    · obtain ⟨rfl,rfl⟩ := kind
      obtain ⟨map,read,same⟩ := (Reading.map_success _ _ _).mp compiled
      obtain rfl := Strategy.command.inj same
      exact ⟨rfl,optionMap_declared config map read⟩
    · obtain ⟨rfl,rfl⟩ := kind
      obtain ⟨scanner,read,same⟩ := (Reading.map_success _ _ _).mp compiled
      obtain rfl := Strategy.command.inj same
      exact ⟨rfl,projectScanner_declared config scanner read⟩
    all_goals
      obtain ⟨rfl,rfl⟩ := kind
      obtain ⟨_,_,same⟩ := (Reading.map_success _ _ _).mp compiled
      simp at same
  · cases compiled

end CommandStrategy

theorem CommandOption.allArguments_direct (s : Surroundings) (ctx : Context)
    (options : List CommandOption) : (allArguments (PathLookup.direct s) ctx options).run =
      options.flatMap fun option => (arguments (PathLookup.direct s) ctx option).run := by
  unfold allArguments
  rw [Id.run_bind,List.idRun_mapM,Id.run_pure,List.flatMap_def]

section Builds
variable (ctx : Context) (resolver : Resolver) (honest : resolver.Honest ctx.surroundings)
include honest

theorem CommandOption.alone_eq (option : CommandOption) : option.alone ctx resolver =
    (arguments (PathLookup.direct ctx.surroundings) ctx option).run := by
  have lookup := Resolver.lookup_resolves ctx.surroundings
  have built := (OptionMap.build_answers lookup ⟨[],[option],false⟩ ctx resolver honest).1
  have plain : ((OptionMap.mk [] [option] false).build (PathLookup.direct ctx.surroundings) ctx).run =
      [] ++ (allArguments (PathLookup.direct ctx.surroundings) ctx [option]).run ++ [] := rfl
  rw [plain,allArguments_direct] at built
  simpa [alone] using built

/-- Options add what each of them adds alone, and leave the remembered segments as they are. -/
theorem CommandOption.allArguments_alone (own : Resolver) (ownHonest : own.Honest ctx.surroundings)
    (options : List CommandOption) :
    ((allArguments (Resolver.lookup ctx.surroundings) ctx options).run resolver).1 =
        options.flatMap (·.alone ctx own) ∧
      Resolver.SameParts ctx.surroundings
        ((allArguments (Resolver.lookup ctx.surroundings) ctx options).run resolver).2 resolver := by
  have beside := Resolver.lookup_resolves_beside ctx.surroundings resolver.parted
  obtain ⟨added,after,same⟩ := allArguments_answers beside ctx options resolver ⟨honest,rfl⟩
  refine ⟨?_,after,honest,same⟩
  rw [added,allArguments_direct]
  apply List.flatMap_congr
  intro option _
  exact (alone_eq ctx own ownHonest option).symm

theorem OptionMap.build_layout (own : Resolver) (ownHonest : own.Honest ctx.surroundings)
    (map : OptionMap) : ((map.build (Resolver.lookup ctx.surroundings) ctx).run resolver).1 =
      map.base ++ map.options.flatMap (·.alone ctx own) ++ map.files ctx := by
  have added := (CommandOption.allArguments_alone ctx resolver honest own ownHonest map.options).1
  rw [← added]
  rfl

theorem ProjectScanner.build_layout (own : Resolver) (ownHonest : own.Honest ctx.surroundings)
    (scanner : ProjectScanner) (left : List Path)
    (found : ((scanner.excluded (Resolver.lookup ctx.surroundings) ctx).run resolver).1 = left) :
    ((scanner.build (Resolver.lookup ctx.surroundings) ctx).run resolver).1 =
      scanner.base ++ scanner.exclusion ctx left ++ scanner.options.flatMap (·.alone ctx own) ++
        ((scanner.targets (Resolver.lookup ctx.surroundings) ctx left).run resolver).1 := by
  have lookup := Resolver.lookup_resolves ctx.surroundings
  have built := (scanner.build_answers lookup ctx resolver honest).1
  have excluded := (scanner.excluded_answers lookup ctx resolver honest).1
  have added := (CommandOption.allArguments_answers lookup ctx scanner.options resolver honest).1
  have targets := (scanner.targets_answers lookup ctx left resolver honest).1
  have alone := CommandOption.allArguments_alone ctx resolver honest own ownHonest scanner.options
  rw [found] at excluded
  rw [built,targets,← alone.1,added,excluded]
  rfl

theorem DownloadedBinary.build_layout (own : Resolver) (ownHonest : own.Honest ctx.surroundings)
    (provider : ArtifactProvider) (binary : DownloadedBinary) (path : Path)
    (provided : provider (binary.request ctx) = .ok path) :
    ((binary.build (Resolver.lookup ctx.surroundings) provider ctx).run resolver).1 =
      .ok (binary.start path ++ binary.options.flatMap (·.alone ctx own) ++
        ((binary.targets (Resolver.lookup ctx.surroundings) ctx).run resolver).1) := by
  have added := CommandOption.allArguments_alone ctx resolver honest own ownHonest binary.options
  have lookups : SameLookups (Together.lockstep (Resolver.SameParts ctx.surroundings))
      (Resolver.lookup ctx.surroundings) (Resolver.lookup ctx.surroundings) fun _ _ => True :=
    ⟨Resolver.resolve_together ctx.surroundings,
      fun candidate root _ => Resolver.parts_together ctx.surroundings candidate root⟩
  have chosen : Together (Resolver.SameParts ctx.surroundings)
      (binary.targets (Resolver.lookup ctx.surroundings) ctx)
      (binary.targets (Resolver.lookup ctx.surroundings) ctx) := by
    unfold DownloadedBinary.targets
    split
    · exact (Together.lockstep _).pure []
    · rename_i selector _
      exact lookups.select selector ctx [] fun _ _ _ _ => trivial
  rw [DownloadedBinary.build,provided]
  change Except.ok (binary.start path ++ ((CommandOption.allArguments
      (Resolver.lookup ctx.surroundings) ctx binary.options).run resolver).1 ++
    ((binary.targets (Resolver.lookup ctx.surroundings) ctx).run ((CommandOption.allArguments
      (Resolver.lookup ctx.surroundings) ctx binary.options).run resolver).2).1) = _
  rw [added.1,(chosen _ resolver added.2).1]

namespace CommandStrategy

/-- Whatever options a strategy has, its frame stands around what they add alone. -/
theorem build_around (own : Resolver) (ownHonest : own.Honest ctx.surroundings)
    (provider : ArtifactProvider) (strategy : CommandStrategy) (options : List CommandOption) :
    (((strategy.withOptions options).build (Resolver.lookup ctx.surroundings) provider ctx).run
        resolver).1 =
      (strategy.frame provider ctx resolver).map fun frame =>
        frame.start ++ frame.exclusion ++ options.flatMap (·.alone ctx own) ++ frame.targets := by
  cases strategy with
  | optionMap map =>
    have built := OptionMap.build_layout ctx resolver honest own ownHonest { map with options }
    refine (congrArg Except.ok built).trans ?_
    simp only [frame,Except.map,List.append_nil]
    rfl
  | projectScanner scanner =>
    have built := ProjectScanner.build_layout ctx resolver honest own ownHonest
      { scanner with options } _ rfl
    exact congrArg Except.ok built
  | downloadedBinary binary =>
    cases provided : provider (binary.request ctx) with
    | error error =>
      have failed : provider (DownloadedBinary.request { binary with options } ctx) =
          .error error := provided
      simp only [withOptions,build,DownloadedBinary.build,failed,frame,provided]
      rfl
    | ok path =>
      have built := DownloadedBinary.build_layout ctx resolver honest own ownHonest provider
        { binary with options } path provided
      refine built.trans ?_
      simp only [frame,provided,Except.map,List.append_nil]
      rfl

end CommandStrategy
end Builds

namespace CommandStrategy

theorem withOptions_self (strategy : CommandStrategy) :
    strategy.withOptions strategy.options = strategy := by
  cases strategy <;> rfl

theorem frame_start (provider : ArtifactProvider) (ctx : Context) (resolver : Resolver)
    (strategy : CommandStrategy) (frame : Frame) (started : strategy.base ≠ [])
    (found : strategy.frame provider ctx resolver = .ok frame) : frame.start ≠ [] := by
  cases strategy with
  | optionMap map =>
    obtain rfl := Except.ok.inj found
    exact started
  | projectScanner scanner =>
    obtain rfl := Except.ok.inj found
    exact started
  | downloadedBinary binary =>
    obtain ⟨path,_,rfl⟩ := (Reading.map_success _ _ _).mp found
    exact mt List.map_eq_nil_iff.mp started

def Leaves (strategy : CommandStrategy) (exclusion : List String) : Prop :=
  exclusion = [] ∨ ∃ scanner flag value, strategy = .projectScanner scanner ∧
    scanner.excludeFlag = some flag ∧ exclusion = [flag,value]

theorem frame_leaves (provider : ArtifactProvider) (ctx : Context) (resolver : Resolver)
    (strategy : CommandStrategy) (frame : Frame)
    (found : strategy.frame provider ctx resolver = .ok frame) :
    strategy.Leaves frame.exclusion := by
  cases strategy with
  | optionMap map =>
    obtain rfl := Except.ok.inj found
    exact .inl rfl
  | projectScanner scanner =>
    obtain rfl := Except.ok.inj found
    dsimp only
    unfold ProjectScanner.exclusion
    split
    · exact .inl rfl
    · rename_i flag flagged
      dsimp only
      split
      · exact .inl rfl
      · exact .inr ⟨scanner,flag,_,rfl,flagged,rfl⟩
  | downloadedBinary binary =>
    obtain ⟨path,_,rfl⟩ := (Reading.map_success _ _ _).mp found
    exact .inl rfl

/-- A command is its start, what it leaves out, what its options add alone one after the other, and
its targets. With any other options in their place the rest of it is the same. -/
theorem command_layout (name : String) (config : Json) (strategy : CommandStrategy)
    (compiled : Strategy.read name config = .ok (.command strategy)) (provider : ArtifactProvider)
    (ctx : Context) (resolver own : Resolver)
    (reached : Resolver.Reached ctx.surroundings resolver)
    (ownReached : Resolver.Reached ctx.surroundings own) :
    strategy.name = name ∧ Declared config strategy ∧
      (∀ frame, strategy.frame provider ctx resolver = .ok frame →
        frame.start ≠ [] ∧ strategy.Leaves frame.exclusion) ∧
      strategy.withOptions strategy.options = strategy ∧
      ∀ options, (((strategy.withOptions options).build (Resolver.lookup ctx.surroundings) provider
          ctx).run resolver).1 =
        (strategy.frame provider ctx resolver).map fun frame =>
          frame.start ++ frame.exclusion ++ options.flatMap (·.alone ctx own) ++ frame.targets := by
  obtain ⟨named,declared⟩ := read_declared name config strategy compiled
  refine ⟨named,declared,?_,withOptions_self strategy,?_⟩
  · intro frame found
    exact ⟨frame_start provider ctx resolver strategy frame declared.started found,
      frame_leaves provider ctx resolver strategy frame found⟩
  · exact build_around ctx resolver reached.honest own ownReached.honest provider strategy

def sampleConfig : Json := .obj [
  ("base",.arr [.str "run",.str "BIN",.str "--quiet"]),
  ("binaryPlaceholder",.str "BIN"),
  ("download",.obj []),
  ("options",.arr [
    .obj [("flag",.str "--level="),("setting",.str "level")],
    .obj [("flag",.str "--config"),("setting",.str "config"),("type",.str "path")]]),
  ("targets",.obj [("pathMustInclude",.str "src")])]

def sampleBinary : DownloadedBinary where
  download := []
  version := none
  placeholder := "BIN"
  base := ["run","BIN","--quiet"]
  options := [⟨["level"],.value,some "--level=",none,none,[],none,none,none⟩,
    ⟨["config"],.path,some "--config",none,none,[],none,none,none⟩]
  selector := some ⟨[],[],[["src"]],none,false⟩

def sampleRun : Context where
  root := ⟨"/repo"⟩
  settings := [("level",.str "2"),("config",.str "a.toml")]
  config := Config.stock
  files := [⟨"/repo/doc/y.py"⟩,⟨"/repo/src/x.py"⟩]
  surroundings := ⟨none,⟨"/"⟩,fun _ => false⟩

def sampleResolver : Resolver :=
  (Resolver.parts ⟨"/repo/doc/./y.py"⟩ ⟨"/repo/"⟩ (Resolver.fresh 8)).2

theorem sampleBinary_layout :
    Strategy.read "command_download_binary" sampleConfig =
        .ok (.command (.downloadedBinary sampleBinary)) ∧
      Resolver.Reached sampleRun.surroundings sampleResolver ∧
      (∀ options, (((downloadedBinary sampleBinary).withOptions options |>.build
          (Resolver.lookup sampleRun.surroundings) (fun _ => .ok ⟨"/cache/bin"⟩) sampleRun).run
            sampleResolver).1 =
        ((downloadedBinary sampleBinary).frame (fun _ => .ok ⟨"/cache/bin"⟩) sampleRun
          sampleResolver).map fun frame => frame.start ++ frame.exclusion ++
            options.flatMap (·.alone sampleRun sampleResolver) ++ frame.targets) ∧
      (((downloadedBinary sampleBinary).build (Resolver.lookup sampleRun.surroundings)
          (fun _ => .ok ⟨"/cache/bin"⟩) sampleRun).run sampleResolver).1.toOption =
        some ["run","/cache/bin","--quiet","--level=2","--config","/repo/a.toml","/repo/src/x.py"] := by
  have compiled : Strategy.read "command_download_binary" sampleConfig =
      .ok (.command (.downloadedBinary sampleBinary)) := rfl
  have reached : Resolver.Reached sampleRun.surroundings sampleResolver :=
    .parts _ _ _ (.fresh 8)
  have layout := command_layout "command_download_binary" sampleConfig _ compiled
    (fun _ => .ok ⟨"/cache/bin"⟩) sampleRun sampleResolver sampleResolver reached reached
  exact ⟨compiled,reached,layout.2.2.2.2,by decide +kernel⟩

end CommandStrategy
end LintTools
