import LintTools.Proofs.Diagnostic.Attributes
import LintTools.Proofs.Diagnostic.Dictionary
import LintTools.Proofs.Diagnostic.SingleMatch

/-! The exits of a field rule. For every item the mapping that the rule was read from says which one
is taken: a constant, the value at the path, its translation, or the default. Nulls stand for nothing
at each of them, but a constant of null is still a constant. -/
namespace LintTools.FieldRule

def pathText? : Json → Option String
  | .str text => some text
  | mapping => (mapping.get? "path").bind (·.text?)

def translations (mapping : Json) : Entries :=
  ((mapping.get? "map").bind (·.entries?)).getD []

def default? (mapping : Json) : Option Json := Json.present (mapping.get? "default")

def Extracts (mapping item value : Json) : Prop :=
  ∃ text path, pathText? mapping = some text ∧ JsonPath.read false text = .ok path ∧
    path.value? item = some value ∧ value.isNull = false

inductive Gives (mapping item : Json) : Option Json → Prop
  | constant (value : Json) (fixed : mapping.get? "value" = some value) :
      Gives mapping item (Json.present (some value))
  | extracted (value : Json) (free : mapping.get? "value" = none)
      (found : Extracts mapping item value) (plain : translations mapping = []) :
      Gives mapping item (some value)
  | translated (value translation : Json) (free : mapping.get? "value" = none)
      (found : Extracts mapping item value)
      (known : lastMet? (translations mapping) value.display = some translation)
      (visible : translation.isNull = false) : Gives mapping item (some translation)
  | untranslated (value : Json) (free : mapping.get? "value" = none)
      (found : Extracts mapping item value) (table : translations mapping ≠ [])
      (unknown : Json.present (lastMet? (translations mapping) value.display) = none) :
      Gives mapping item (default? mapping)
  | missing (free : mapping.get? "value" = none) (nothing : ∀ value, ¬Extracts mapping item value) :
      Gives mapping item (default? mapping)

section Read
variable (field : Field) (mapping : Json) (rule : FieldRule)
  (compiled : read field mapping = .ok rule)

theorem pathIn_text (value : Option Json) (path : Option JsonPath)
    (found : pathIn field value = .ok path) :
    (value.bind (·.text?) = none ∧ path = none) ∨ ∃ text inner, value.bind (·.text?) = some text ∧
      JsonPath.read false text = .ok inner ∧ path = some inner := by
  unfold pathIn at found
  split at found
  · exact .inl ⟨rfl,(Except.ok.inj found).symm⟩
  · exact .inl ⟨rfl,(Except.ok.inj found).symm⟩
  · rename_i text
    obtain ⟨inner,read,same⟩ := (Reading.map_success _ _ _).mp found
    exact .inr ⟨text,inner,rfl,(readPath_success _ _ _).mp read,same.symm⟩
  · cases found

theorem dictionaryIn_entries (value : Option Json) (dictionary : Entries)
    (found : dictionaryIn field value = .ok dictionary) :
    dictionary = dictionaryOf ((value.bind (·.entries?)).getD []) := by
  unfold dictionaryIn at found
  split at found
  · exact (Except.ok.inj found).symm
  · exact (Except.ok.inj found).symm
  · exact (Except.ok.inj found).symm
  · cases found

theorem extracts_of_text (path : Option JsonPath)
    (located : (pathText? mapping = none ∧ path = none) ∨ ∃ text inner,
      pathText? mapping = some text ∧ JsonPath.read false text = .ok inner ∧ path = some inner)
    (item value : Json) : Json.present (path.bind fun path => path.value? item) = some value ↔
      Extracts mapping item value := by
  rw [Json.present_iff]
  rcases located with ⟨nowhere,rfl⟩ | ⟨text,inner,somewhere,read,rfl⟩
  · simp [Extracts,nowhere]
  · simp [Extracts,somewhere,read]

include compiled

/-- The parts of a rule are those of its mapping. -/
theorem read_mapping : ∃ path : Option JsonPath,
    (∀ item value, Json.present (path.bind fun path => path.value? item) = some value ↔
      Extracts mapping item value) ∧
    rule = {
      dictionary := dictionaryOf (translations mapping)
      source := match mapping.get? "value" with
        | some value => .constant value
        | none => .path path
      stock := default? mapping } := by
  rcases read_success field mapping rule compiled with
    ⟨text,path,rfl,read,rfl⟩ | ⟨entry,path,dictionary,rfl,located,mapped,rfl⟩
  · have located := (readPath_success _ _ _).mp read
    exact ⟨some path,extracts_of_text _ _ (.inr ⟨text,path,rfl,located,rfl⟩),rfl⟩
  · refine ⟨path,extracts_of_text _ path (pathIn_text field _ path located),?_⟩
    rw [dictionaryIn_entries field _ dictionary mapped]
    rfl

theorem value?_constant (item constant : Json) (fixed : mapping.get? "value" = some constant) :
    rule.value? item = Json.present (some constant) := by
  obtain ⟨path,_,rfl⟩ := read_mapping field mapping rule compiled
  simp only [value?,fixed]

theorem value?_missing (item : Json) (free : mapping.get? "value" = none)
    (nothing : ∀ value, ¬Extracts mapping item value) : rule.value? item = default? mapping := by
  obtain ⟨path,extracts,rfl⟩ := read_mapping field mapping rule compiled
  have empty : Json.present (path.bind fun path => path.value? item) = none :=
    Option.eq_none_iff_forall_ne_some.mpr fun value found => nothing value ((extracts _ _).mp found)
  simp only [value?,free,empty]

theorem value?_extracted (item value : Json) (free : mapping.get? "value" = none)
    (found : Extracts mapping item value) : rule.value? item =
      if translations mapping = [] then some value
      else (Json.present (lastMet? (translations mapping) value.display)).or (default? mapping) := by
  obtain ⟨path,extracts,same⟩ := read_mapping field mapping rule compiled
  have looked := inDictionary?_eq rule (translations mapping) (by rw [same]) value
  rw [← looked]
  subst same
  simp only [value?,free,(extracts item value).mpr found]
  by_cases plain : translations mapping = []
  · rw [if_pos plain,plain]
    rfl
  · rw [if_neg plain,dictionaryOf_filled _ plain]
    rfl

theorem value?_of_gives (item : Json) (result : Option Json) (gives : Gives mapping item result) :
    rule.value? item = result := by
  cases gives with
  | constant value fixed => exact value?_constant field mapping rule compiled item value fixed
  | extracted value free found plain =>
    rw [value?_extracted field mapping rule compiled item value free found,if_pos plain]
  | translated value translation free found known visible =>
    have table : translations mapping ≠ [] := by
      intro plain
      rw [plain] at known
      cases known
    rw [value?_extracted field mapping rule compiled item value free found,if_neg table,
      (Json.present_iff _ translation).mpr ⟨known,visible⟩,Option.some_or]
  | untranslated value free found table unknown =>
    rw [value?_extracted field mapping rule compiled item value free found,if_neg table,unknown,
      Option.none_or]
  | missing free nothing => exact value?_missing field mapping rule compiled item free nothing

omit compiled in
/-- There is always an exit. -/
theorem exists_gives (item : Json) : ∃ result, Gives mapping item result := by
  cases fixed : mapping.get? "value" with
  | some constant => exact ⟨_,.constant constant fixed⟩
  | none =>
    by_cases extracted : ∃ value, Extracts mapping item value
    · obtain ⟨value,found⟩ := extracted
      by_cases plain : translations mapping = []
      · exact ⟨_,.extracted value fixed found plain⟩
      · cases known : Json.present (lastMet? (translations mapping) value.display) with
        | none => exact ⟨_,.untranslated value fixed found plain known⟩
        | some translation =>
          obtain ⟨met,visible⟩ := (Json.present_iff _ translation).mp known
          exact ⟨_,.translated value translation fixed found met visible⟩
    · exact ⟨_,.missing fixed fun value found => extracted ⟨value,found⟩⟩

/-- A rule that was read gives for every item what its mapping gives, and never a null. -/
theorem value?_iff_gives (item : Json) :
    (∀ result, rule.value? item = result ↔ Gives mapping item result) ∧
      ∀ value, rule.value? item = some value → value.isNull = false := by
  refine ⟨?_,value?_present field mapping rule compiled item⟩
  intro result
  constructor
  · rintro rfl
    obtain ⟨result,gives⟩ := exists_gives mapping item
    rwa [value?_of_gives field mapping rule compiled item result gives]
  · exact value?_of_gives field mapping rule compiled item result

end Read

def ratingMapping : Json :=
  .obj [("default",.str "warning"),
    ("map",.obj (Entries.ofPairs [("HIGH",.str "error"),("low",.null)])),("path",.str "rating")]

def ratingRule : FieldRule :=
  ⟨.path (some ⟨[.key "rating"]⟩),some (.str "warning"),
    dictionaryOf (Entries.ofPairs [("HIGH",.str "error"),("low",.null)])⟩

theorem ratingMapping_gives : read .severity ratingMapping = .ok ratingRule ∧
    Gives ratingMapping (.obj [("rating",.str "high")]) (some (.str "error")) ∧
    Gives ratingMapping (.obj [("rating",.str "LOW")]) (some (.str "warning")) := by
  have compiled : read .severity ratingMapping = .ok ratingRule := rfl
  have gives := value?_iff_gives .severity ratingMapping ratingRule compiled
  exact ⟨compiled,((gives _).1 _).mp rfl,((gives _).1 _).mp rfl⟩

end LintTools.FieldRule
