import LintTools.Proofs.JsonPath.Scanning

/-! Keys in quotes. Whatever signs a quoted key holds, it is one key, so each value below objects has
a path of quoted keys that leads to it. -/
namespace LintTools

def Json.nested (names : List String) (value : Json) : Json :=
  names.foldr (fun name inner => .obj [(name,inner)]) value

theorem Json.follow?_nested (names : List String) (value : Json) :
    (nested names value).follow? names = some value := by
  induction names with
  | nil => rfl
  | cons name names ih =>
    have first : (nested (name :: names) value).get? name = some (nested names value) := by
      simp [nested,get?,entries?,Entries.get?]
    rw [follow?,List.foldlM_cons,first]
    exact ih

namespace JsonPath
open LintTools.Text (Trimmed)

/-- Keys without quotes of their own. Blanks at the ends of a key are lost, and an empty key or the
root sign is no step. -/
structure Quotable (name : String) : Prop where
  filled : name ≠ ""
  noRoot : name ≠ "$"
  trimmed : Text.trim name = name
  clear : '"' ∉ name.toList

def quoted (name : String) : String := "\"" ++ name ++ "\""

theorem quoted_toList (name : String) : (quoted name).toList = '"' :: (name.toList ++ ['"']) := by
  simp [quoted]

/-- A path of keys leads where the keys lead, and nowhere else. -/
theorem value?_keys (names : List String) (document : Json) :
    (⟨names.map .key⟩ : JsonPath).value? document = document.follow? names :=
  List.foldlM_map ..

section Reading
variable (wildcards : Bool) (path name : String) (quotable : Quotable name)
include quotable

theorem Quotable.keyStep : keyStep name.toList = [.key name] :=
  keyStep_trimmed name quotable.filled ((Text.trim_eq_self_iff name).mp quotable.trimmed)

theorem scan_quoted_key (rest : List Char) :
    scan wildcards path .keys [] ((quoted name).toList ++ rest) =
      scan wildcards path .keys name.toList rest := by
  have read := scan_quoted wildcards path [] name.toList rest quotable.clear
  simpa [quoted_toList] using read

end Reading

/-- Quoted keys between points are read one by one. -/
theorem scan_quoted_keys (wildcards : Bool) (path name : String) (names : List String)
    (quotable : ∀ key ∈ name :: names, Quotable key) :
    scan wildcards path .keys []
        (['.'].intercalate ((name :: names).map fun key => (quoted key).toList)) =
      .ok ((name :: names).map .key) := by
  induction names generalizing name with
  | nil =>
    have single := quotable name List.mem_cons_self
    have read := scan_quoted_key wildcards path name single []
    rw [List.append_nil] at read
    rw [List.map_singleton,List.intercalate_singleton,read,scan,single.keyStep]
    rfl
  | cons next names ih =>
    have first := quotable name List.mem_cons_self
    have later := ih next fun key member => quotable key (List.mem_cons_of_mem name member)
    rw [List.map_cons] at later
    rw [List.map_cons,List.map_cons,List.intercalate_cons_cons,List.append_assoc,
      scan_quoted_key wildcards path name first,List.singleton_append,scan_point,later,first.keyStep]
    rfl

/-- Quoted keys joined by points are read as these keys, and the path leads through any document as
the keys do; so it finds a value that is nested under them. -/
theorem read_quoted_keys (wildcards : Bool) (names : List String)
    (quotable : ∀ name ∈ names, Quotable name) :
    ∃ path, read wildcards (Text.join "." (names.map quoted)) = .ok path ∧
      path.steps = names.map .key ∧
      (∀ document, path.value? document = document.follow? names) ∧
      ∀ value, path.value? (Json.nested names value) = some value := by
  have scanned : scan wildcards "" .keys [] (Text.join "." (names.map quoted)).toList =
      .ok (names.map .key) := by
    rw [Text.join,String.toList_ofList,List.map_map]
    cases names with
    | nil => rfl
    | cons name names => exact scan_quoted_keys wildcards "" name names quotable
  have kept : (names.map Step.key).filter (!·.isRoot) = names.map .key := by
    rw [List.filter_eq_self]
    intro step member
    obtain ⟨name,inside,rfl⟩ := List.mem_map.mp member
    simp [Step.isRoot,(quotable name inside).filled,(quotable name inside).noRoot]
  refine ⟨⟨names.map .key⟩,(read_iff wildcards "" _ _).mpr ⟨_,scanned,kept.symm⟩,rfl,
    value?_keys names,?_⟩
  intro value
  rw [value?_keys,Json.follow?_nested]

def signKeys : List String := ["a.b","[0]","7","*","] [","$ref"]

theorem signKeys_found : (∀ name ∈ signKeys, Quotable name) ∧
    ∃ path, read false (Text.join "." (signKeys.map quoted)) = .ok path ∧
      path.steps = signKeys.map .key ∧
      (∀ document, path.value? document = document.follow? signKeys) ∧
      ∀ value, path.value? (Json.nested signKeys value) = some value := by
  have quotable : ∀ name ∈ signKeys, Quotable name := by
    have checked : ∀ name ∈ signKeys, name ≠ "" ∧ name ≠ "$" ∧ Text.trim name = name ∧
        '"' ∉ name.toList := by decide +kernel
    intro name member
    obtain ⟨filled,noRoot,trimmed,clear⟩ := checked name member
    exact ⟨filled,noRoot,trimmed,clear⟩
  exact ⟨quotable,read_quoted_keys false signKeys quotable⟩

end JsonPath
end LintTools
