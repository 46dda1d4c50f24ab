import LintTools.Diagnostic.Field
import LintTools.Proofs.Catalog.Reading
import LintTools.Proofs.Json.Entries
import LintTools.Proofs.Text.Caseless
import Mathlib

/-! Dictionaries of field rules. Every entry is written under its caseless key and under its own, so
entries whose keys differ in case meet; the one that is written last decides, and looking a value up
under its own spelling never finds what its caseless key does not. -/
namespace LintTools.FieldRule
open LintTools.Text (caselessKey caselessKey_idem)
open LintTools.Reading (bind_success)

def meets (text : String) (entry : String × Json) : Bool := caselessKey entry.1 = caselessKey text

def lastMet? (entries : Entries) (text : String) : Option Json :=
  (entries.reverse.find? (meets text)).map (·.2)

def written (entry : String × Json) : List (String × Json) :=
  [entry,(caselessKey entry.1,entry.2)]

theorem dictionaryOf_get? (entries : Entries) (name : String) :
    (dictionaryOf entries).get? name = Entries.get? (entries.reverse.flatMap written) name := by
  rw [dictionaryOf,Entries.get?_ofPairs,List.reverse_flatMap]
  rfl

theorem get?_written (entries : Entries) (text : String) :
    Entries.get? (entries.flatMap written) (caselessKey text) =
      (entries.find? (meets text)).map (·.2) := by
  induction entries with
  | nil => rfl
  | cons entry entries ih =>
    obtain ⟨key,value⟩ := entry
    rw [List.flatMap_cons,written,List.cons_append,List.cons_append,List.nil_append,
      Entries.get?_cons,Entries.get?_cons,ih]
    by_cases met : caselessKey key = caselessKey text
    · have found : meets text (key,value) = true := by simp [meets,met]
      rw [if_pos met.symm,ite_self,List.find?_cons_of_pos found]
      rfl
    · have missed : ¬meets text (key,value) = true := by simp [meets,met]
      have spelled : caselessKey text ≠ key := by
        rintro rfl
        exact met (caselessKey_idem text)
      rw [if_neg spelled,if_neg (Ne.symm met),List.find?_cons_of_neg missed]

/-- Under the caseless key of a text stands what the last entry holds that the text meets. -/
theorem dictionaryOf_caseless (entries : Entries) (text : String) :
    (dictionaryOf entries).get? (caselessKey text) = lastMet? entries text := by
  rw [dictionaryOf_get?,get?_written,lastMet?]

/-- What stands under some spelling stands under the caseless key of that spelling too. -/
theorem dictionaryOf_spelled (entries : Entries) (text : String) (value : Json)
    (found : (dictionaryOf entries).get? text = some value) :
    ((dictionaryOf entries).get? (caselessKey text)).isSome = true := by
  rw [dictionaryOf_get?] at found
  have member := Entries.mem_of_get? _ text value found
  obtain ⟨entry,listed,inside⟩ := List.mem_flatMap.mp member
  have met : caselessKey entry.1 = caselessKey text := by
    simp only [written,List.mem_cons,List.not_mem_nil,or_false,Prod.ext_iff] at inside
    rcases inside with ⟨same,_⟩ | ⟨same,_⟩
    · rw [same]
    · rw [same,caselessKey_idem]
  rw [dictionaryOf_caseless,lastMet?,Option.isSome_map,List.find?_isSome]
  exact ⟨entry,listed,by simp [meets,met]⟩

theorem second_look_idle (entries : Entries) (text : String) :
    ((dictionaryOf entries).get? (caselessKey text)).or ((dictionaryOf entries).get? text) =
      (dictionaryOf entries).get? (caselessKey text) := by
  cases folded : (dictionaryOf entries).get? (caselessKey text) with
  | some value => rfl
  | none =>
    cases spelled : (dictionaryOf entries).get? text with
    | none => rfl
    | some value =>
      have present := dictionaryOf_spelled entries text value spelled
      simp [folded] at present

theorem dictionaryOf_filled (entries : Entries) (nonempty : entries ≠ []) :
    (dictionaryOf entries).isEmpty = false := by
  obtain ⟨entry,rest,rfl⟩ := List.exists_cons_of_ne_nil nonempty
  have some : ((dictionaryOf (entry :: rest)).get? (caselessKey entry.1)).isSome = true := by
    rw [dictionaryOf_caseless,lastMet?,Option.isSome_map,List.find?_isSome]
    exact ⟨entry,by simp,by simp [meets]⟩
  cases shape : dictionaryOf (entry :: rest) with
  | nil => simp [shape,Entries.get?_nil] at some
  | cons first others => rfl

/-- A value is looked up as the text that it is shown as. -/
theorem inDictionary?_eq (rule : FieldRule) (entries : Entries)
    (made : rule.dictionary = dictionaryOf entries) (value : Json) :
    rule.inDictionary? value = Json.present (lastMet? entries value.display) := by
  have folded := dictionaryOf_caseless entries value.display
  unfold inDictionary?
  rw [made,← folded]
  cases value with
  | str text => exact congrArg Json.present (second_look_idle entries text)
  | _ => rfl

/-- Of the entries that a text meets, the last is the one with the greatest key. -/
theorem lastMet?_greatest (entries : Entries) (text key : String) (chosen : Json)
    (ordered : entries.Ordered) (listed : (key,chosen) ∈ entries)
    (met : caselessKey key = caselessKey text)
    (greatest : ∀ entry ∈ entries, caselessKey entry.1 = caselessKey text → entry.1 ≤ key) :
    lastMet? entries text = some chosen := by
  have descending : entries.reverse.Pairwise fun a b => b.1 < a.1 := List.pairwise_reverse.mpr ordered
  have member : (key,chosen) ∈ entries.reverse := List.mem_reverse.mpr listed
  have meeting : meets text (key,chosen) = true := by simp [meets,met]
  rw [lastMet?]
  cases found : entries.reverse.find? (meets text) with
  | none => exact absurd meeting (List.find?_eq_none.mp found _ member)
  | some entry =>
    obtain ⟨meetsToo,before,after,shape,unmet⟩ := List.find?_eq_some_iff_append.mp found
    rw [shape] at member descending
    rcases List.mem_append.mp member with earlier | later
    · have missed := unmet (key,chosen) earlier
      simp [meeting] at missed
    · rcases List.mem_cons.mp later with same | behind
      · rw [← same]
        rfl
      · have less : key < entry.1 :=
          List.rel_of_pairwise_cons (List.pairwise_append.mp descending).2.1 behind
        have inside : entry ∈ entries := by
          rw [← List.mem_reverse,shape]
          simp
        have atMost := greatest entry inside (by simpa [meets] using meetsToo)
        exact absurd less (not_lt.mpr atMost)

theorem lastMet?_none (entries : Entries) (text : String)
    (unmet : ∀ entry ∈ entries, caselessKey entry.1 ≠ caselessKey text) :
    lastMet? entries text = none := by
  have missing : entries.reverse.find? (meets text) = none := by
    rw [List.find?_eq_none]
    intro entry member
    simpa [meets] using unmet entry (List.mem_reverse.mp member)
  rw [lastMet?,missing]
  rfl

structure Translates (field : Field) (entry : Entries) (path : JsonPath) (entries : Entries)
    (rule : FieldRule) : Prop where
  compiled : read field (.obj entry) = .ok rule
  unfixed : entry.get? "value" = none
  located : ∃ text, entry.get? "path" = some (.str text) ∧ JsonPath.read false text = .ok path
  mapped : entry.get? "map" = some (.obj entries)
  filled : entries ≠ []
  ordered : entries.Ordered

theorem Translates.rule_eq {field : Field} {entry entries : Entries} {path : JsonPath}
    {rule : FieldRule} (translates : Translates field entry path entries rule) :
    rule = ⟨.path (some path),Json.present (entry.get? "default"),dictionaryOf entries⟩ := by
  obtain ⟨text,named,readable⟩ := translates.located
  have compiled := translates.compiled
  have drawn : readPath false text = .ok path := by rw [readPath,readable]
  simp only [read,readEntry,named,translates.mapped,translates.unfixed,drawn] at compiled
  exact (Except.ok.inj compiled).symm

section Translation
variable {field : Field} {entry entries : Entries} {path : JsonPath} {rule : FieldRule}

theorem Translates.dictionary_eq (translates : Translates field entry path entries rule) :
    rule.dictionary = dictionaryOf entries := by
  rw [translates.rule_eq]

theorem Translates.inDictionary (translates : Translates field entry path entries rule)
    (value : Json) : rule.inDictionary? value = Json.present (lastMet? entries value.display) :=
  inDictionary?_eq rule entries translates.dictionary_eq value

theorem Translates.value_eq (translates : Translates field entry path entries rule)
    (item value : Json) (drawn : path.value? item = some value) (visible : value.isNull = false) :
    rule.value? item = (Json.present (lastMet? entries value.display)).or
      (Json.present (entry.get? "default")) := by
  have present : Json.present (some value) = some value := by
    simp [Json.present,Option.filter,visible]
  have filled := dictionaryOf_filled entries translates.filled
  rw [← translates.inDictionary value]
  rw [translates.rule_eq]
  simp only [value?,Option.bind_some,drawn,present,filled,Bool.false_eq_true,if_false]

end Translation

/-- The entries that a value meets decide together: without one the default counts, and otherwise
the value under the greatest of their keys, where a null gives way to the default. Spelling plays no
part: values with the same caseless key are translated alike, and the second look finds nothing. -/
theorem value_of_greatest_key (field : Field) (entry entries : Entries) (path : JsonPath)
    (rule : FieldRule) (translates : Translates field entry path entries rule) (item value : Json)
    (drawn : path.value? item = some value) (visible : value.isNull = false) :
    ((∀ met ∈ entries, caselessKey met.1 ≠ caselessKey value.display) →
      rule.value? item = Json.present (entry.get? "default")) ∧
    (∀ key chosen, (key,chosen) ∈ entries → caselessKey key = caselessKey value.display →
      (∀ met ∈ entries, caselessKey met.1 = caselessKey value.display → met.1 ≤ key) →
      rule.value? item = if chosen.isNull then Json.present (entry.get? "default") else some chosen) ∧
    (∀ otherItem other, path.value? otherItem = some other → other.isNull = false →
      caselessKey other.display = caselessKey value.display →
      rule.value? otherItem = rule.value? item) ∧
    ∀ spelling, (rule.dictionary.get? (caselessKey spelling)).or (rule.dictionary.get? spelling) =
      rule.dictionary.get? (caselessKey spelling) := by
  have result := translates.value_eq item value drawn visible
  refine ⟨?_,?_,?_,?_⟩
  · intro unmet
    rw [result,lastMet?_none entries value.display unmet]
    rfl
  · intro key chosen listed met greatest
    rw [result,lastMet?_greatest entries value.display key chosen translates.ordered listed met
      greatest]
    cases null : chosen.isNull with
    | true => simp [Json.present,Option.filter,null]
    | false => simp [Json.present,Option.filter,null]
  · intro otherItem other found shown same
    have alike : lastMet? entries other.display = lastMet? entries value.display := by
      rw [← dictionaryOf_caseless,same,dictionaryOf_caseless]
    rw [result,translates.value_eq otherItem other found shown,alike]
  · intro spelling
    rw [translates.dictionary_eq]
    exact second_look_idle entries spelling

def streetEntries : Entries :=
  Entries.ofPairs [("strasse",.str "lane"),("Straße",.null),("STRASSE",.str "street"),
    ("weg",.str "way")]

def streetEntry : Entries :=
  [("default",.str "unknown"),("map",.obj streetEntries),("path",.str "kind")]

def streetRule : FieldRule :=
  ⟨.path (some ⟨[.key "kind"]⟩),some (.str "unknown"),dictionaryOf streetEntries⟩

theorem streetEntries_filled : streetEntries ≠ [] := by
  intro empty
  have first : streetEntries.get? "weg" = some (.str "way") := by cbv
  simp [empty,Entries.get?_nil] at first

theorem streetRule_translates :
    Translates .code streetEntry ⟨[.key "kind"]⟩ streetEntries streetRule where
  compiled := rfl
  unfixed := rfl
  located := ⟨"kind",rfl,by cbv⟩
  mapped := rfl
  filled := streetEntries_filled
  ordered := Entries.ofPairs_ordered _

def streetItem : Json := .obj [("kind",.str "STRAẞE")]

theorem streetItem_greatest_key :
    Translates .code streetEntry ⟨[.key "kind"]⟩ streetEntries streetRule ∧
      JsonPath.value? ⟨[.key "kind"]⟩ streetItem = some (.str "STRAẞE") ∧
      ("strasse",.str "lane") ∈ streetEntries ∧ streetRule.value? streetItem = some (.str "lane") := by
  have listed : ("strasse",.str "lane") ∈ streetEntries :=
    Entries.mem_of_get? _ _ _ (by cbv)
  have drawn : JsonPath.value? ⟨[.key "kind"]⟩ streetItem = some (.str "STRAẞE") := rfl
  have decided := (value_of_greatest_key .code streetEntry streetEntries ⟨[.key "kind"]⟩ streetRule
    streetRule_translates streetItem (.str "STRAẞE") drawn rfl).2.1 "strasse" (.str "lane") listed
  refine ⟨streetRule_translates,drawn,listed,decided ?_ ?_⟩
  · cbv
  · decide +kernel

end LintTools.FieldRule
