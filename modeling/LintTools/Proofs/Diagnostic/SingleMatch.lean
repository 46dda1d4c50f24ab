import LintTools.Proofs.Catalog.Nulls
import LintTools.Proofs.JsonPath.Wildcards

/-! The single match of a path. The values of a path are what is left of a front of nodes that each
step moves on. Without steps over every element that is the one value that a look-up of single
steps finds, or nothing; with such a step the look-up finds nothing. Rules for fields only ever have
paths of the first kind. -/
namespace LintTools

namespace JsonPath

theorem foldl_values (steps : List Step) (nodes : List Json) :
    steps.foldl (fun front step => front.flatMap step.values) nodes =
      nodes.flatMap (valuesFrom steps) := by
  induction steps generalizing nodes with
  | nil => exact (List.flatMap_singleton' nodes).symm
  | cons step rest ih =>
    rw [List.foldl_cons,ih,List.flatMap_assoc]
    rfl

theorem Step.values_single (step : Step) (single : step ≠ .every) (value : Json) :
    step.values value = (step.value? value).toList := by
  cases step with
  | key name => rfl
  | index position => rfl
  | every => exact absurd rfl single

theorem value?_cons (step : Step) (rest : List Step) (value : Json) :
    value? ⟨step :: rest⟩ value = (step.value? value).bind (value? ⟨rest⟩) := rfl

theorem valuesFrom_single (steps : List Step) (single : .every ∉ steps) (value : Json) :
    valuesFrom steps value = (value? ⟨steps⟩ value).toList := by
  induction steps generalizing value with
  | nil => rfl
  | cons step rest ih =>
    simp only [List.mem_cons,not_or] at single
    obtain ⟨first,later⟩ := single
    rw [valuesFrom,value?_cons,step.values_single (Ne.symm first) value]
    cases step.value? value with
    | none => rfl
    | some child =>
      rw [Option.toList_some,List.flatMap_singleton]
      exact ih later child

/-- Wherever a step over every element stands, the look-up stops there at the latest. -/
theorem value?_starred (steps : List Step) (starred : .every ∈ steps) (value : Json) :
    value? ⟨steps⟩ value = none := by
  induction steps generalizing value with
  | nil => cases starred
  | cons step rest ih =>
    rw [value?_cons]
    rcases List.mem_cons.mp starred with rfl | later
    · rfl
    · cases step.value? value with
      | none => rfl
      | some child => exact ih later child

theorem values_single (path : JsonPath) (single : path.hasEvery = false) (document : Json) :
    path.values document = (path.value? document).toList := by
  apply valuesFrom_single
  rw [← hasEvery_iff,single]
  exact Bool.false_ne_true

theorem value?_every (path : JsonPath) (every : path.hasEvery = true) (document : Json) :
    path.value? document = none :=
  value?_starred path.steps ((hasEvery_iff path).mp every) document

end JsonPath

namespace FieldRule

theorem readPath_success (wildcards : Bool) (text : String) (path : JsonPath) :
    readPath wildcards text = .ok path ↔ JsonPath.read wildcards text = .ok path := by
  unfold readPath
  cases JsonPath.read wildcards text with
  | ok found => simp
  | error error => simp [fault]

theorem pathIn_single (field : Field) (value : Option Json) (path : JsonPath)
    (found : pathIn field value = .ok (some path)) : path.hasEvery = false := by
  unfold pathIn at found
  split at found
  · simp at found
  · simp at found
  · obtain ⟨_,read,same⟩ := (Reading.map_success _ _ _).mp found
    obtain rfl := Option.some.inj same
    exact JsonPath.read_single _ _ ((readPath_success _ _ _).mp read)
  · cases found

theorem read_bare (field : Field) (text : String) (rule : FieldRule)
    (compiled : read field (.str text) = .ok rule) :
    ∃ path, JsonPath.read false text = .ok path ∧ rule = ⟨.path (some path),none,[]⟩ := by
  rcases read_success field _ rule compiled with ⟨_,path,same,found,rfl⟩ | ⟨_,_,_,other,_⟩
  · obtain rfl := Json.str.inj same
    exact ⟨path,(readPath_success _ _ _).mp found,rfl⟩
  · cases other

/-- Whatever shape the mapping has, the path of its rule was read without wildcards. -/
theorem read_single (field : Field) (mapping : Json) (rule : FieldRule)
    (compiled : read field mapping = .ok rule) (path : JsonPath)
    (source : rule.source = .path (some path)) : path.hasEvery = false := by
  rcases read_success field mapping rule compiled with
    ⟨text,found,_,read,rfl⟩ | ⟨entry,found,_,_,read,_,rfl⟩
  · obtain rfl : found = path := by simpa using source
    exact JsonPath.read_single text found ((readPath_success _ _ _).mp read)
  · dsimp only at source
    split at source
    · cases source
    · obtain rfl := Source.path.inj source
      exact pathIn_single field _ path read

/-- A bare path gives what it leads to, unless that is a null. -/
theorem value?_bare (path : JsonPath) (item value : Json) :
    value? ⟨.path (some path),none,[]⟩ item = some value ↔
      path.value? item = some value ∧ value.isNull = false := by
  simp only [value?,Option.bind_some]
  cases found : path.value? item with
  | none => simp [Json.present]
  | some other => cases null : other.isNull <;> simp [Json.present,Option.filter,null] <;> grind

end FieldRule

/-- The values of a path, found step by step from a front of nodes, and its look-up of one value
agree wherever the path has no step over every element. The paths of field rules have none, so a
field that is given as a path has the single match of that path, if there is one and it is no null. -/
theorem JsonPath.single_match :
    (∀ (path : JsonPath) (document : Json),
      path.values document =
        path.steps.foldl (fun front step => front.flatMap step.values) [document] ∧
      (path.hasEvery = false → (path.values document).length ≤ 1 ∧
        path.values document = (path.value? document).toList) ∧
      (path.hasEvery = true → path.value? document = none)) ∧
    (∀ field mapping rule path, FieldRule.read field mapping = .ok rule →
      rule.source = .path (some path) → path.hasEvery = false) ∧
    ∀ field text rule, FieldRule.read field (.str text) = .ok rule →
      ∃ path, read false text = .ok path ∧ ∀ item value, rule.value? item = some value ↔
        path.values item = [value] ∧ value.isNull = false := by
  refine ⟨?_,?_,?_⟩
  · intro path document
    refine ⟨?_,?_,fun every => value?_every path every document⟩
    · rw [foldl_values,List.flatMap_singleton,values]
    · intro single
      have listed := values_single path single document
      refine ⟨?_,listed⟩
      rw [listed]
      exact Option.length_toList_le
  · intro field mapping rule path compiled source
    exact FieldRule.read_single field mapping rule compiled path source
  · intro field text rule compiled
    obtain ⟨path,found,rfl⟩ := FieldRule.read_bare field text rule compiled
    refine ⟨path,found,?_⟩
    intro item value
    rw [FieldRule.value?_bare,values_single path (read_single text path found) item]
    cases path.value? item <;> simp

def rowsItem : Json := .obj [("rows",.arr [.null,.str "unused"])]

def lastRow : JsonPath := ⟨[.key "rows",.index (-1)]⟩

def lastRowRule : FieldRule := ⟨.path (some lastRow),none,[]⟩

theorem JsonPath.rows_single_match :
    lastRow.hasEvery = false ∧ lastRow.values rowsItem = (lastRow.value? rowsItem).toList ∧
      hasEvery ⟨[.key "rows",.every]⟩ = true ∧ value? ⟨[.key "rows",.every]⟩ rowsItem = none ∧
      FieldRule.read .code (.obj [("map",.null),("path",.str "rows[-1]")]) = .ok lastRowRule ∧
      FieldRule.read .code (.str "rows[-1]") = .ok lastRowRule ∧
      lastRowRule.value? rowsItem = some (.str "unused") ∧
      ∃ path, read false "rows[-1]" = .ok path ∧ path.values rowsItem = [.str "unused"] := by
  obtain ⟨agree,compiled,bare⟩ := single_match
  have entry : FieldRule.read .code (.obj [("map",.null),("path",.str "rows[-1]")]) =
      .ok lastRowRule := rfl
  have text : FieldRule.read .code (.str "rows[-1]") = .ok lastRowRule := rfl
  have single := compiled .code _ lastRowRule lastRow entry rfl
  have value : lastRowRule.value? rowsItem = some (.str "unused") := rfl
  obtain ⟨path,read,drawn⟩ := bare .code "rows[-1]" lastRowRule text
  exact ⟨single,((agree lastRow rowsItem).2.1 single).2,rfl,(agree _ rowsItem).2.2 rfl,entry,text,
    value,path,read,((drawn rowsItem _).mp value).1⟩

end LintTools
