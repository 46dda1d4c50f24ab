import LintTools.Json.Basic
import Mathlib.Data.List.Basic
import Mathlib.Data.String.Basic

/-! Objects as they are written. Of equal names the last value counts, and the names come out in
order. -/
namespace LintTools.Entries
open Std

theorem get?_nil (name : String) : get? [] name = none := rfl

theorem get?_cons (name other : String) (value : Json) (entries : Entries) :
    get? ((name,value) :: entries) other =
      if other = name then some value else entries.get? other := by
  rw [get?,List.lookup_cons]
  by_cases same : other = name
  · simp [same]
  · simp [same,get?,beq_eq_false_iff_ne.mpr same]

theorem get?_insert (entries : Entries) (name other : String) (value : Json) :
    (entries.insert name value).get? other =
      if other = name then some value else entries.get? other := by
  induction entries with
  | nil => rw [insert,get?_cons]
  | cons entry entries ih =>
    obtain ⟨head,old⟩ := entry
    rw [insert]
    cases order : compare name head with
    | lt => rw [get?_cons]
    | eq =>
      have same : name = head := LawfulEqCmp.eq_of_compare order
      rw [get?_cons,get?_cons,same]
      split <;> rfl
    | gt =>
      have different : head ≠ name := by
        rintro rfl
        simp [ReflCmp.compare_self] at order
      rw [get?_cons,get?_cons,ih]
      by_cases first : other = head
      · rw [if_pos first,if_pos first,if_neg (first ▸ different)]
      · rw [if_neg first,if_neg first]

theorem get?_other (entries : Entries) (name other : String) (value : Json)
    (different : name ≠ other) : (entries.insert name value).get? other = entries.get? other := by
  rw [get?_insert,if_neg (Ne.symm different)]

theorem ofPairs_eq_foldl (pairs : List (String × Json)) :
    ofPairs pairs = pairs.foldl (fun entries pair => insert pair.1 pair.2 entries) [] := rfl

/-- The value that pairs give a name is the last one written for it. -/
theorem get?_ofPairs (pairs : List (String × Json)) (name : String) :
    (ofPairs pairs).get? name = get? pairs.reverse name := by
  have onto (pairs : List (String × Json)) (entries : Entries) :
      get? (pairs.foldl (fun entries pair => insert pair.1 pair.2 entries) entries) name =
        (get? pairs.reverse name).or (entries.get? name) := by
    induction pairs generalizing entries with
    | nil => rfl
    | cons pair pairs ih =>
      have split : get? (pairs.reverse ++ [pair]) name =
          (get? pairs.reverse name).or (get? [pair] name) := List.lookup_append
      rw [List.foldl_cons,ih,get?_insert,List.reverse_cons,split,get?_cons,get?_nil,Option.or_assoc]
      congr 1
      split <;> rfl
  rw [ofPairs_eq_foldl,onto pairs [],get?_nil,Option.or_none]

theorem mem_of_get? (entries : Entries) (name : String) (value : Json)
    (found : entries.get? name = some value) : (name,value) ∈ entries := by
  obtain ⟨before,after,shape,_⟩ := List.lookup_eq_some_iff.mp found
  simp [shape]

def Ordered (entries : Entries) : Prop := entries.Pairwise fun a b => a.1 < b.1

theorem mem_insert (entries : Entries) (name : String) (value : Json) (entry : String × Json)
    (member : entry ∈ entries.insert name value) : entry.1 = name ∨ entry ∈ entries := by
  induction entries with
  | nil =>
    rw [insert,List.mem_singleton] at member
    exact .inl (member ▸ rfl)
  | cons first entries ih =>
    obtain ⟨head,old⟩ := first
    rw [insert] at member
    cases order : compare name head with
    | lt =>
      rw [order] at member
      rcases List.mem_cons.mp member with rfl | inside
      · exact .inl rfl
      · exact .inr inside
    | eq =>
      rw [order] at member
      rcases List.mem_cons.mp member with rfl | inside
      · exact .inl rfl
      · exact .inr (List.mem_cons_of_mem _ inside)
    | gt =>
      rw [order] at member
      rcases List.mem_cons.mp member with rfl | inside
      · exact .inr List.mem_cons_self
      · exact (ih inside).imp_right (List.mem_cons_of_mem _)

theorem insert_ordered (entries : Entries) (name : String) (value : Json)
    (ordered : entries.Ordered) : (entries.insert name value).Ordered := by
  induction entries with
  | nil => exact List.pairwise_singleton _ _
  | cons first entries ih =>
    obtain ⟨head,old⟩ := first
    obtain ⟨above,rest⟩ := List.pairwise_cons.mp ordered
    rw [insert]
    cases order : compare name head with
    | lt =>
      have less : name < head := compare_lt_iff_lt.mp order
      refine List.pairwise_cons.mpr ⟨?_,ordered⟩
      intro entry member
      rcases List.mem_cons.mp member with rfl | inside
      · exact less
      · exact less.trans (above entry inside)
    | eq =>
      have same : name = head := LawfulEqCmp.eq_of_compare order
      exact List.pairwise_cons.mpr ⟨fun entry inside => same ▸ above entry inside,rest⟩
    | gt =>
      have greater : head < name := compare_gt_iff_gt.mp order
      refine List.pairwise_cons.mpr ⟨?_,ih rest⟩
      intro entry member
      rcases mem_insert entries name value entry member with same | inside
      · exact same ▸ greater
      · exact above entry inside

theorem ofPairs_ordered (pairs : List (String × Json)) : (ofPairs pairs).Ordered := by
  have onto (entries : Entries) (ordered : entries.Ordered) :
      Ordered (pairs.foldl (fun entries pair => insert pair.1 pair.2 entries) entries) := by
    induction pairs generalizing entries with
    | nil => exact ordered
    | cons pair pairs ih => exact ih _ (insert_ordered entries pair.1 pair.2 ordered)
  rw [ofPairs_eq_foldl]
  exact onto [] List.Pairwise.nil

end LintTools.Entries
