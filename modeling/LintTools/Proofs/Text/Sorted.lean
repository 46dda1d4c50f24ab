import LintTools.Invocation.DefaultReference
import Mathlib.Data.List.Sort
import Mathlib.Tactic.Tauto

/-! Ascending lists and sorted texts. An ascending list is determined by its elements, so a list of
texts that is sorted does not depend on how the texts were arranged or repeated before. -/
namespace LintTools
open Std

def SameElements {α : Type} (items others : List α) : Prop := ∀ item, item ∈ items ↔ item ∈ others

theorem SameElements.exists_iff {α : Type} {items others : List α}
    (same : SameElements items others) (holds : α → Prop) :
    (∃ item ∈ items, holds item) ↔ ∃ item ∈ others, holds item :=
  exists_congr fun item => and_congr_left fun _ => same item

/-- Lists in strictly ascending order are equal when they have the same elements. -/
theorem eq_of_ascending {α : Type} [Ord α] [TransOrd α] (left right : List α)
    (leftSorted : left.Pairwise fun a b => compare a b = .lt)
    (rightSorted : right.Pairwise fun a b => compare a b = .lt)
    (same : SameElements left right) : left = right := by
  have irreflexive : Std.Irrefl fun a b : α => compare a b = .lt := by
    constructor
    intro item less
    have level : compare item item = .eq := ReflCmp.compare_self
    rw [level] at less
    contradiction
  have antisymmetric : Std.Antisymm fun a b : α => compare a b = .lt := by
    constructor
    intro first second less greater
    exact absurd (TransCmp.lt_trans less greater) (irreflexive.irrefl first)
  exact leftSorted.eq_of_mem_iff rightSorted same

theorem mem_insertText (text other : String) (texts : List String) :
    other ∈ insertText text texts ↔ other = text ∨ other ∈ texts := by
  induction texts with
  | nil => simp [insertText]
  | cons first texts ih =>
    rw [insertText]
    cases order : compare text first with
    | lt => simp
    | eq =>
      have same : text = first := Std.LawfulEqCmp.eq_of_compare order
      simp [same]
    | gt =>
      simp only [List.mem_cons,ih]
      tauto

theorem insertText_ascending (text : String) (texts : List String)
    (sorted : texts.Pairwise fun a b => compare a b = .lt) :
    (insertText text texts).Pairwise fun a b => compare a b = .lt := by
  induction texts with
  | nil => exact List.pairwise_singleton _ _
  | cons first texts ih =>
    obtain ⟨below,later⟩ := List.pairwise_cons.mp sorted
    rw [insertText]
    cases order : compare text first with
    | lt =>
      refine List.pairwise_cons.mpr ⟨?_,sorted⟩
      intro other member
      rcases List.mem_cons.mp member with rfl | inside
      · exact order
      · exact TransCmp.lt_trans order (below other inside)
    | eq => exact sorted
    | gt =>
      refine List.pairwise_cons.mpr ⟨?_,ih later⟩
      intro other member
      rcases (mem_insertText text other texts).mp member with rfl | inside
      · exact OrientedCmp.gt_iff_lt.mp order
      · exact below other inside

theorem mem_sortedTexts (text : String) (texts : List String) :
    text ∈ sortedTexts texts ↔ text ∈ texts := by
  have onto (sorted : List String) :
      text ∈ texts.foldl (fun sorted text => insertText text sorted) sorted ↔
        text ∈ sorted ∨ text ∈ texts := by
    induction texts generalizing sorted with
    | nil => simp
    | cons first texts ih =>
      rw [List.foldl_cons,ih,mem_insertText,List.mem_cons]
      tauto
  rw [sortedTexts,onto []]
  simp

theorem sortedTexts_ascending (texts : List String) :
    (sortedTexts texts).Pairwise fun a b => compare a b = .lt := by
  have onto (sorted : List String) (start : sorted.Pairwise fun a b => compare a b = .lt) :
      (texts.foldl (fun sorted text => insertText text sorted) sorted).Pairwise
        fun a b => compare a b = .lt := by
    induction texts generalizing sorted with
    | nil => exact start
    | cons first texts ih => exact ih _ (insertText_ascending first sorted start)
  exact onto [] List.Pairwise.nil

theorem sortedTexts_congr (texts others : List String)
    (same : SameElements texts others) : sortedTexts texts = sortedTexts others := by
  apply eq_of_ascending _ _ (sortedTexts_ascending texts) (sortedTexts_ascending others)
  intro text
  rw [mem_sortedTexts,mem_sortedTexts,same]

end LintTools
