import LintTools.JsonPath.Basic
import Mathlib.Data.List.Basic

/-! Concrete locations in a document and the ones that a path stands for. The values of a path are
the nodes at these locations, each once, in the order of the array positions on the way. Keys and
fixed positions leave no choice below one node, so only steps over every element order them. -/
namespace LintTools

inductive Edge where
  | key (name : String)
  | position (offset : Nat)

abbrev Location := List Edge

namespace Json

def child? : Json → Edge → Option Json
  | obj entries, .key name => Entries.get? entries name
  | arr items, .position offset => items[offset]?
  | _, _ => none

def at? (value : Json) (location : Location) : Option Json := location.foldlM child? value

theorem at?_nil (value : Json) : value.at? [] = some value := rfl

theorem at?_cons (value : Json) (edge : Edge) (location : Location) :
    value.at? (edge :: location) = (value.child? edge).bind (·.at? location) := rfl

end Json

def Edge.offset? : Edge → Option Nat
  | key _ => none
  | position offset => some offset

def Location.positions (location : Location) : List Nat := location.filterMap Edge.offset?

namespace JsonPath

def Step.Matches (value : Json) : Step → Edge → Prop
  | .key name, .key other => other = name
  | .index position, .position offset =>
    if 0 ≤ position then (offset : Int) = position
    else ∃ items, value = .arr items ∧ (offset : Int) = items.length + position
  | .every, .position _ => True
  | _, _ => False

/-- Locations of nodes below `value` that are as long as `steps` and follow them one by one. -/
structure Designates (steps : List Step) (value : Json) (location : Location) : Prop where
  length : location.length = steps.length
  present : (value.at? location).isSome
  follows : ∀ i step edge, steps[i]? = some step → location[i]? = some edge →
    ∃ node, value.at? (location.take i) = some node ∧ step.Matches node edge

theorem designates_nil (value : Json) (location : Location) :
    Designates [] value location ↔ location = [] := by
  constructor
  · intro designated
    exact List.length_eq_zero_iff.mp designated.length
  · rintro rfl
    exact ⟨rfl,rfl,by simp⟩

theorem not_designates_nil (step : Step) (steps : List Step) (value : Json) :
    ¬Designates (step :: steps) value [] := by
  intro designated
  simpa using designated.length

theorem designates_cons (step : Step) (steps : List Step) (value : Json) (edge : Edge)
    (location : Location) :
    Designates (step :: steps) value (edge :: location) ↔
      step.Matches value edge ∧
        ∃ child, value.child? edge = some child ∧ Designates steps child location := by
  constructor
  · intro designated
    obtain ⟨node,here,first⟩ := designated.follows 0 step edge rfl rfl
    simp only [List.take_zero,Json.at?_nil,Option.some.injEq] at here
    subst node
    have present := designated.present
    rw [Json.at?_cons] at present
    cases found : value.child? edge with
    | none => simp [found] at present
    | some child =>
      refine ⟨first,child,rfl,?_,?_,?_⟩
      · simpa using designated.length
      · simpa [found] using present
      · intro i next other inSteps inLocation
        obtain ⟨node,reached,followed⟩ := designated.follows (i + 1) next other
          (by simpa using inSteps) (by simpa using inLocation)
        exact ⟨node,by simpa [Json.at?_cons,found] using reached,followed⟩
  · rintro ⟨first,child,found,below⟩
    refine ⟨by simpa using below.length,by simpa [Json.at?_cons,found] using below.present,?_⟩
    intro i next other inSteps inLocation
    cases i with
    | zero =>
      simp only [List.getElem?_cons_zero,Option.some.injEq] at inSteps inLocation
      subst next other
      exact ⟨value,rfl,first⟩
    | succ i =>
      obtain ⟨node,reached,followed⟩ := below.follows i next other
        (by simpa using inSteps) (by simpa using inLocation)
      exact ⟨node,by simpa [Json.at?_cons,found] using reached,followed⟩

def Step.edges (step : Step) (value : Json) : List Edge :=
  match step, value with
  | .key name, .obj entries => if (Entries.get? entries name).isSome then [.key name] else []
  | .index position, .arr items =>
    ((resolveIndex? items.length position).map Edge.position).toList
  | .every, .arr items => (List.range items.length).map .position
  | _, _ => []

def locations : List Step → Json → List Location
  | [], _ => [[]]
  | step :: rest, value => (step.edges value).flatMap fun edge =>
    ((value.child? edge).toList.flatMap (locations rest)).map (edge :: ·)

theorem resolveIndex_iff (count : Nat) (position : Int) (offset : Nat) :
    resolveIndex? count position = some offset ↔ offset < count ∧
      (offset : Int) = if 0 ≤ position then position else count + position := by
  unfold resolveIndex?
  split <;> split <;> simp <;> omega

/-- The edges of a step are those it matches at which there is a node. -/
theorem mem_edges (step : Step) (value : Json) (edge : Edge) :
    edge ∈ step.edges value ↔ step.Matches value edge ∧ (value.child? edge).isSome := by
  cases step with
  | key name =>
    cases value <;> cases edge <;> grind [Step.edges,Step.Matches,Json.child?]
  | index position =>
    cases value with
    | arr items =>
      cases edge with
      | key name => simp [Step.edges,Step.Matches]
      | position offset =>
        simp only [Step.edges,Step.Matches,Json.child?,Option.mem_toList,Option.map_eq_some_iff,
          Edge.position.injEq,exists_eq_right,resolveIndex_iff]
        split <;> simp [and_comm]
    | _ => cases edge <;> simp [Step.edges,Step.Matches,Json.child?]
  | every =>
    cases value <;> cases edge <;> grind [Step.edges,Step.Matches,Json.child?]

private theorem elements_by_offset {α : Type} (items : List α) :
    ((List.range items.length).flatMap fun offset => items[offset]?.toList) = items := by
  induction items with
  | nil => rfl
  | cons item items ih =>
    simp only [List.length_cons,List.range_succ_eq_map,List.flatMap_cons,List.flatMap_map]
    simpa using ih

theorem values_edges (step : Step) (value : Json) :
    step.values value = (step.edges value).flatMap fun edge => (value.child? edge).toList := by
  cases step with
  | key name =>
    cases value with
    | obj entries =>
      cases found : Entries.get? entries name <;>
        simp [Step.values,Step.edges,Json.get?,Json.entries?,Json.child?,found]
    | _ => rfl
  | index position =>
    cases value with
    | arr items =>
      cases found : resolveIndex? items.length position <;>
        simp [Step.values,Step.edges,Json.items?,Json.child?,found]
    | _ => rfl
  | every =>
    cases value with
    | arr items =>
      simp only [Step.values,Step.edges,Json.items?,Json.child?,List.flatMap_map]
      exact (elements_by_offset items).symm
    | _ => rfl

theorem mem_locations (steps : List Step) (value : Json) (location : Location) :
    location ∈ locations steps value ↔ Designates steps value location := by
  induction steps generalizing value location with
  | nil => simp [locations,designates_nil]
  | cons step rest ih =>
    cases location with
    | nil => simp [locations,not_designates_nil]
    | cons edge location =>
      rw [designates_cons]
      simp only [locations,List.mem_flatMap,List.mem_map,mem_edges,List.cons.injEq,
        Option.mem_toList,Option.isSome_iff_exists]
      constructor
      · rintro ⟨_,⟨first,_⟩,_,⟨child,found,inside⟩,rfl,rfl⟩
        exact ⟨first,child,found,(ih child _).mp inside⟩
      · rintro ⟨first,child,found,below⟩
        exact ⟨edge,⟨first,child,found⟩,location,⟨child,found,(ih child _).mpr below⟩,rfl,rfl⟩

theorem values_locations (steps : List Step) (value : Json) :
    (valuesFrom steps value).map some = (locations steps value).map value.at? := by
  induction steps generalizing value with
  | nil => rfl
  | cons step rest ih =>
    simp only [valuesFrom,locations,values_edges,List.flatMap_assoc,List.map_flatMap]
    apply List.flatMap_congr
    intro edge _
    cases found : value.child? edge with
    | none => rfl
    | some child =>
      have below := ih child
      simp only [Option.toList_some,List.flatMap_cons,List.flatMap_nil,List.append_nil,
        List.map_map,below]
      apply List.map_congr_left
      intro location _
      simp [Json.at?_cons,found]

/-- Below one value, only array positions tell the edges of a step apart. -/
theorem edges_ordered (step : Step) (value : Json) :
    (step.edges value).Pairwise fun a b =>
      ∀ left right : Location, Location.positions (a :: left) < Location.positions (b :: right) := by
  unfold Step.edges
  split
  · split <;> simp
  · cases resolveIndex? _ _ <;> simp
  · rw [List.pairwise_map]
    refine List.pairwise_lt_range.imp ?_
    intro a b less left right
    exact List.cons_lt_cons_iff.mpr (.inl less)
  · exact List.Pairwise.nil

theorem positions_cons_lt (edge : Edge) (left right : Location)
    (less : left.positions < right.positions) :
    Location.positions (edge :: left) < Location.positions (edge :: right) := by
  cases edge with
  | key name => exact less
  | position offset => exact List.cons_lt_cons_iff.mpr (.inr ⟨rfl,less⟩)

theorem locations_ordered (steps : List Step) (value : Json) :
    (locations steps value).Pairwise fun a b => a.positions < b.positions := by
  induction steps generalizing value with
  | nil => simp [locations]
  | cons step rest ih =>
    simp only [locations,List.pairwise_flatMap]
    constructor
    · intro edge _
      rw [List.pairwise_map]
      cases value.child? edge with
      | none => simp
      | some child =>
        simp only [Option.toList_some,List.flatMap_cons,List.flatMap_nil,List.append_nil]
        exact (ih child).imp fun less => positions_cons_lt edge _ _ less
    · refine (edges_ordered step value).imp ?_
      intro a b before left leftMember right rightMember
      obtain ⟨left,_,rfl⟩ := List.mem_map.mp leftMember
      obtain ⟨right,_,rfl⟩ := List.mem_map.mp rightMember
      exact before left right

/-- The values of a path are the nodes at the locations it designates. Strictly increasing array
positions fix the order and leave no location twice. -/
theorem values_at_designated (path : JsonPath) (document : Json) :
    ∃ found : List Location,
      (path.values document).map some = found.map document.at? ∧
      (∀ location, location ∈ found ↔ Designates path.steps document location) ∧
      found.Pairwise fun a b => a.positions < b.positions :=
  ⟨locations path.steps document,values_locations path.steps document,
    mem_locations path.steps document,locations_ordered path.steps document⟩

end JsonPath
end LintTools
