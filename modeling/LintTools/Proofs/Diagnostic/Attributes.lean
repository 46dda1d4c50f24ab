import LintTools.Diagnostic.Extractor
import LintTools.Proofs.Catalog.Nulls
import Mathlib.Data.List.Forall2

/-! Attributes of extracted diagnostics. Each of them is drawn by the rule of its own field, and only the
message decides whether an item gives a diagnostic, so that changing the rule of another field
changes that attribute and nothing else. -/
namespace LintTools

inductive Attribute where
  | text (value : Option String)
  | number (value : Option Int)

def Attribute.ofValue (field : Field) (value : Option Json) : Attribute :=
  match field with
  | .line | .column => number (value.bind (·.toInt?))
  | _ => text (value.bind (·.display?))

def Diagnostic.attribute (d : Diagnostic) : Field → Attribute
  | .file => .text d.file
  | .line => .number d.line
  | .column => .number d.column
  | .code => .text d.code
  | .message => .text (some d.message)
  | .severity => .text d.severity
  | .tool => .text d.tool
  | .group => .text d.group
  | .function => .text d.function

def Diagnostic.AgreeBeside (field : Field) (d other : Diagnostic) : Prop :=
  ∀ shared, shared ≠ field → d.attribute shared = other.attribute shared

theorem Field.named?_name (field : Field) : named? field.name = some field := by
  cases field <;> rfl

theorem Field.name_of_named? (name : String) (field : Field) (found : named? name = some field) :
    field.name = name := by
  simpa using List.find?_some found

theorem Json.present_iff (value : Option Json) (given : Json) :
    Json.present value = some given ↔ value = some given ∧ given.isNull = false := by
  simp [Json.present,Option.filter_eq_some_iff]

theorem Json.present_some (value : Option Json) (given : Json)
    (present : Json.present value = some given) : given.isNull = false :=
  ((Json.present_iff value given).mp present).2

namespace FieldRule

theorem read_stock (field : Field) (mapping : Json) (rule : FieldRule)
    (compiled : read field mapping = .ok rule) (value : Json) (stock : rule.stock = some value) :
    value.isNull = false := by
  rcases read_success field mapping rule compiled with ⟨_,_,_,_,rfl⟩ | ⟨_,_,_,_,_,_,rfl⟩
  · cases stock
  · exact Json.present_some _ value stock

/-- A rule that was read never gives a null. -/
theorem value?_present (field : Field) (mapping : Json) (rule : FieldRule)
    (compiled : read field mapping = .ok rule) (item value : Json)
    (drawn : rule.value? item = some value) : value.isNull = false := by
  have stock := read_stock field mapping rule compiled value
  unfold value? at drawn
  split at drawn
  · exact Json.present_some _ value drawn
  · split at drawn
    · exact stock drawn
    · rename_i found present
      split at drawn
      · exact Json.present_some _ value (present.trans drawn)
      · rcases Option.or_eq_some_iff.mp drawn with translated | ⟨_,default⟩
        · exact Json.present_some _ value translated
        · exact stock default

end FieldRule

namespace Extractor

structure DifferAt (field : Field) (config other : Json) : Prop where
  path : config.get? "path" = other.get? "path"
  format : config.get? "inputFormat" = other.get? "inputFormat"
  mappings : ∀ name, name ≠ field.name →
    config.follow? ["mappings",name] = other.follow? ["mappings",name]

theorem readRule_success (name : String) (mapping : Json) (field : Field) (rule : FieldRule)
    (compiled : readRule name mapping = .ok (field,rule)) :
    field.name = name ∧ FieldRule.read field mapping = .ok rule := by
  unfold readRule at compiled
  split at compiled
  · rename_i other found
    obtain ⟨read,drawn,same⟩ := (Reading.bind_success _ _ _).mp compiled
    obtain ⟨rfl,rfl⟩ := Prod.mk.inj (Except.ok.inj same)
    exact ⟨Field.name_of_named? name _ found,drawn⟩
  · cases compiled

/-- The rule of a field is read from what stands under its name. -/
theorem lookup_of_mapM (mappings : Entries) (rules : List (Field × FieldRule))
    (compiled : (mappings.mapM fun mapping => readRule mapping.1 mapping.2) = .ok rules)
    (field : Field) : rules.lookup field =
      (mappings.get? field.name).bind fun value => (FieldRule.read field value).toOption := by
  induction mappings generalizing rules with
  | nil =>
    obtain rfl := Except.ok.inj compiled
    rfl
  | cons mapping mappings ih =>
    obtain ⟨name,value⟩ := mapping
    rw [List.mapM_cons] at compiled
    obtain ⟨⟨other,rule⟩,first,compiled⟩ := (Reading.bind_success _ _ _).mp compiled
    obtain ⟨rest,later,compiled⟩ := (Reading.bind_success _ _ _).mp compiled
    obtain rfl := Except.ok.inj compiled
    obtain ⟨rfl,drawn⟩ := readRule_success name value other rule first
    rw [Entries.get?_cons,List.lookup_cons]
    by_cases same : field = other
    · subst same
      rw [if_pos rfl,beq_self_eq_true]
      dsimp only
      rw [Option.bind_some,drawn]
      rfl
    · have named : field.name ≠ other.name := fun equal => same <| Option.some.inj <| by
        rw [← Field.named?_name,← Field.named?_name,equal]
      rw [if_neg named,beq_eq_false_iff_ne.mpr same]
      exact ih rest later

theorem read_parts (config : Json) (e : Extractor) (compiled : read config = .ok e) :
    ∃ entry, config = .obj entry ∧ readItemPath entry = .ok e.itemPath ∧
      readFormat entry = .ok e.format ∧
      ∀ field, e.rules.lookup field = (config.follow? ["mappings",field.name]).bind fun value =>
        (FieldRule.read field value).toOption := by
  simp only [read,Reading.bind_success] at compiled
  obtain ⟨entry,object,path,located,format,formatted,mappings,held,rules,mapped,compiled⟩ := compiled
  obtain rfl := requireObject_success config _ _ entry object
  split at compiled
  · cases compiled
  · obtain rfl := Except.ok.inj compiled
    refine ⟨entry,rfl,located,formatted,?_⟩
    intro field
    have given := requireObjectAt_success entry "mappings" context mappings held
    have under : (Json.obj entry).follow? ["mappings",field.name] = mappings.get? field.name := by
      simp [Json.follow?,Json.get?,Json.entries?,given]
    rw [under]
    exact lookup_of_mapM mappings rules mapped field

theorem field?_present (config : Json) (e : Extractor) (compiled : read config = .ok e)
    (field : Field) (item value : Json) (drawn : e.field? field item = some value) :
    value.isNull = false := by
  obtain ⟨_,_,_,_,rules⟩ := read_parts config e compiled
  obtain ⟨rule,listed,given⟩ := Option.bind_eq_some_iff.mp drawn
  rw [rules field] at listed
  obtain ⟨mapping,_,read⟩ := Option.bind_eq_some_iff.mp listed
  exact FieldRule.value?_present field mapping rule ((Reading.toOption_success _ _).mp read) item
    value given

def keeps (e : Extractor) (item : Json) : Bool :=
  item.isObject && (e.field? .message item).any fun value => !value.display.isEmpty

def keptItems (e : Extractor) (payload : Json) : List Json := (e.items payload).filter e.keeps

def Drawn (e : Extractor) (item : Json) (d : Diagnostic) : Prop :=
  ∀ field, d.attribute field = .ofValue field (e.field? field item)

theorem message?_iff (e : Extractor) (item : Json) (message : String) :
    e.message? item = some message ↔
      ∃ value, e.field? .message item = some value ∧ value.display = message ∧ message ≠ "" := by
  rw [message?,Option.filter_eq_some_iff,Option.map_eq_some_iff,Bool.not_eq_true',
    String.isEmpty_eq_false_iff]
  constructor
  · rintro ⟨⟨value,drawn,shown⟩,filled⟩
    exact ⟨value,drawn,shown,filled⟩
  · rintro ⟨value,drawn,shown,filled⟩
    exact ⟨⟨value,drawn,shown⟩,filled⟩

theorem isSome_diagnostic? (e : Extractor) (item : Json) (object : item.isObject = true) :
    (e.diagnostic? item).isSome = e.keeps item := by
  rw [diagnostic?,Option.isSome_map,keeps,object,Bool.true_and,message?]
  cases e.field? .message item with
  | none => rfl
  | some value => cases shown : value.display.isEmpty <;> simp [Option.filter,shown]

theorem diagnostic?_drawn (config : Json) (e : Extractor) (compiled : read config = .ok e)
    (item : Json) (d : Diagnostic) (found : e.diagnostic? item = some d) : e.Drawn item d := by
  obtain ⟨message,said,rfl⟩ := Option.map_eq_some_iff.mp found
  obtain ⟨value,drawn,rfl,_⟩ := (message?_iff e item message).mp said
  have present := field?_present config e compiled .message item value drawn
  intro field
  cases field with
  | message =>
    rw [drawn]
    simp [Diagnostic.attribute,Attribute.ofValue,Json.display?,present]
  | _ => rfl

theorem diagnostics_drawn (config : Json) (e : Extractor) (compiled : read config = .ok e)
    (payload : Json) : List.Forall₂ e.Drawn (e.keptItems payload) (e.diagnostics payload) := by
  unfold keptItems diagnostics
  -- On the items: one that is no object or has no message is passed over on both sides.
  induction e.items payload with
  | nil => exact .nil
  | cons item items ih =>
    cases object : item.isObject with
    | false =>
      have passed : e.keeps item = false := by rw [keeps,object,Bool.false_and]
      rw [List.filter_cons_of_neg (by simp [passed]),List.filter_cons_of_neg (by simp [object])]
      exact ih
    | true =>
      have kept := isSome_diagnostic? e item object
      rw [List.filter_cons_of_pos object]
      cases found : e.diagnostic? item with
      | none =>
        rw [found] at kept
        rw [List.filter_cons_of_neg (by simp [← kept]),List.filterMap_cons_none found]
        exact ih
      | some d =>
        rw [found] at kept
        rw [List.filter_cons_of_pos kept.symm,List.filterMap_cons_some found]
        exact .cons (diagnostic?_drawn config e compiled item d found) ih

theorem agree_of_drawn (field : Field) (e second : Extractor)
    (alike : ∀ shared, shared ≠ field → ∀ item, e.field? shared item = second.field? shared item)
    (items : List Json) (found others : List Diagnostic) (drawn : List.Forall₂ e.Drawn items found)
    (alsoDrawn : List.Forall₂ second.Drawn items others) :
    List.Forall₂ (Diagnostic.AgreeBeside field) found others := by
  induction drawn generalizing others with
  | nil =>
    cases alsoDrawn
    exact .nil
  | @cons item d items found first _ ih =>
    cases alsoDrawn with
    | cons alsoFirst rest =>
      refine .cons ?_ (ih _ rest)
      intro shared other
      rw [first shared,alsoFirst shared,alike shared other item]

section Differing
variable {field : Field} {config other : Json} {e second : Extractor}
  (differ : DifferAt field config other) (compiled : read config = .ok e)
  (alsoCompiled : read other = .ok second)
include differ compiled alsoCompiled

theorem DifferAt.field?_eq (shared : Field) (separate : shared ≠ field) (item : Json) :
    e.field? shared item = second.field? shared item := by
  obtain ⟨_,_,_,_,rules⟩ := read_parts config e compiled
  obtain ⟨_,_,_,_,others⟩ := read_parts other second alsoCompiled
  have named : shared.name ≠ field.name := fun equal => separate <| Option.some.inj <| by
    rw [← Field.named?_name,← Field.named?_name,equal]
  rw [field?,field?,rules,others,differ.mappings shared.name named]

theorem DifferAt.itemPath_eq : e.itemPath = second.itemPath := by
  obtain ⟨entry,rfl,located,_⟩ := read_parts config e compiled
  obtain ⟨otherEntry,rfl,alsoLocated,_⟩ := read_parts other second alsoCompiled
  have same : Entries.get? entry "path" = Entries.get? otherEntry "path" := differ.path
  rw [readItemPath,same,← readItemPath,alsoLocated] at located
  exact (Except.ok.inj located).symm

theorem DifferAt.format_eq : e.format = second.format := by
  obtain ⟨entry,rfl,_,formatted,_⟩ := read_parts config e compiled
  obtain ⟨otherEntry,rfl,_,alsoFormatted,_⟩ := read_parts other second alsoCompiled
  have same : Entries.get? entry "inputFormat" = Entries.get? otherEntry "inputFormat" :=
    differ.format
  rw [readFormat,same,← readFormat,alsoFormatted] at formatted
  exact (Except.ok.inj formatted).symm

theorem DifferAt.keptItems_eq (separate : field ≠ .message) (payload : Json) :
    e.keptItems payload = second.keptItems payload := by
  have message := differ.field?_eq compiled alsoCompiled .message separate.symm
  have keeps : e.keeps = second.keeps := by
    funext item
    rw [Extractor.keeps,Extractor.keeps,message item]
  unfold keptItems items
  rw [keeps,differ.itemPath_eq compiled alsoCompiled]

/-- Extractors whose configurations differ in the mapping of one field, which is not the message, find
diagnostics in the same items, those with a message, and these differ in that attribute only. -/
theorem changed_at_one_field (separate : field ≠ .message) :
    (∀ payload, e.keptItems payload = second.keptItems payload ∧
      List.Forall₂ e.Drawn (e.keptItems payload) (e.diagnostics payload) ∧
      List.Forall₂ second.Drawn (second.keptItems payload) (second.diagnostics payload) ∧
      List.Forall₂ (Diagnostic.AgreeBeside field) (e.diagnostics payload)
        (second.diagnostics payload)) ∧
    ∀ output, List.Forall₂ (Diagnostic.AgreeBeside field) (e.parse output)
      (second.parse output) := by
  have each (payload : Json) : e.keptItems payload = second.keptItems payload ∧
      List.Forall₂ e.Drawn (e.keptItems payload) (e.diagnostics payload) ∧
      List.Forall₂ second.Drawn (second.keptItems payload) (second.diagnostics payload) ∧
      List.Forall₂ (Diagnostic.AgreeBeside field) (e.diagnostics payload)
        (second.diagnostics payload) := by
    have same := differ.keptItems_eq compiled alsoCompiled separate payload
    have drawn := diagnostics_drawn config e compiled payload
    have alsoDrawn := diagnostics_drawn other second alsoCompiled payload
    refine ⟨same,drawn,alsoDrawn,?_⟩
    exact agree_of_drawn field e second (differ.field?_eq compiled alsoCompiled) _ _ _ drawn
      (same ▸ alsoDrawn)
  refine ⟨each,?_⟩
  intro output
  rw [parse,parse,← differ.format_eq compiled alsoCompiled]
  exact (each _).2.2.2

end Differing

def plainMappings : Entries :=
  [("file",.str "name"),("line",.obj [("default",.bool true),("path",.str "at[0]")]),
    ("message",.str "text")]

def ratedMappings : Entries := plainMappings ++
  [("severity",.obj [("default",.str "warning"),("path",.str "level")])]

def configuration (mappings : Entries) : Json :=
  .obj [("mappings",.obj mappings),("path",.str "results[*]")]

def plainExtractor : Extractor where
  itemPath := some ⟨[.key "results",.every]⟩
  format := .document
  rules := [(.file,⟨.path (some ⟨[.key "name"]⟩),none,[]⟩),
    (.line,⟨.path (some ⟨[.key "at",.index 0]⟩),some (.bool true),[]⟩),
    (.message,⟨.path (some ⟨[.key "text"]⟩),none,[]⟩)]

def ratedExtractor : Extractor where
  itemPath := plainExtractor.itemPath
  format := .document
  rules := plainExtractor.rules ++
    [(.severity,⟨.path (some ⟨[.key "level"]⟩),some (.str "warning"),[]⟩)]

theorem configuration_differ :
    DifferAt .severity (configuration ratedMappings) (configuration plainMappings) where
  path := rfl
  format := rfl
  mappings name other := by
    have severity : name ≠ "severity" := other
    simp [configuration,ratedMappings,plainMappings,Json.follow?,Json.get?,Json.entries?,
      Entries.get?_cons,Entries.get?_nil,severity]

def mixedResults : Json := .obj [("results",.arr [
  .obj [("at",.arr [.str " 3 "]),("level",.str "high"),("name",.str "a.py"),("text",.str "unused")],
  .str "text",
  .obj [("level",.str "low"),("text",.str "")],
  .obj [("level",.null),("name",.null),("text",.bool false)]])]

theorem mixedResults_agree :
    read (configuration ratedMappings) = .ok ratedExtractor ∧
      read (configuration plainMappings) = .ok plainExtractor ∧
      DifferAt .severity (configuration ratedMappings) (configuration plainMappings) ∧
      ratedExtractor.keptItems mixedResults = plainExtractor.keptItems mixedResults ∧
      List.Forall₂ (Diagnostic.AgreeBeside .severity) (ratedExtractor.diagnostics mixedResults)
        (plainExtractor.diagnostics mixedResults) ∧
      ratedExtractor.diagnostics mixedResults =
        [{ file := some "a.py"
           line := some 3
           severity := some "high"
           message := "unused" },
         { line := some 1
           severity := some "warning"
           message := "false" }] := by
  have rated : read (configuration ratedMappings) = .ok ratedExtractor := rfl
  have plain : read (configuration plainMappings) = .ok plainExtractor := rfl
  have each := (changed_at_one_field configuration_differ rated plain (by decide)).1 mixedResults
  exact ⟨rated,plain,configuration_differ,each.1,each.2.2.2,rfl⟩

end Extractor
end LintTools
