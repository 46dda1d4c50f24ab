import LintTools.Json.Basic

/-! Paths into JSON documents and the values they lead to. A path with a step over every element
leads to any number of values; without one it leads to at most one. -/
namespace LintTools

inductive JsonPath.Step where
  | key (name : String)
  | index (position : Int)
  | every
  deriving DecidableEq

structure JsonPath where
  steps : List JsonPath.Step
  deriving DecidableEq

namespace JsonPath

def hasEvery (path : JsonPath) : Bool := path.steps.contains .every

def resolveIndex? (count : Nat) (position : Int) : Option Nat :=
  let place := if position < 0 then count + position else position
  if 0 ≤ place ∧ place < count then some place.toNat else none

def Step.values (step : Step) (value : Json) : List Json :=
  match step with
  | .key name => (value.get? name).toList
  | .index position =>
    (value.items?.bind fun items =>
      (resolveIndex? items.length position).bind fun place => items[place]?).toList
  | .every => value.items?.getD []

def valuesFrom : List Step → Json → List Json
  | [], value => [value]
  | step :: rest, value => (step.values value).flatMap (valuesFrom rest)

def values (path : JsonPath) (document : Json) : List Json := valuesFrom path.steps document

def Step.value? (step : Step) (value : Json) : Option Json :=
  match step with
  | .key name => value.get? name
  | .index position =>
    value.items?.bind fun items =>
      (resolveIndex? items.length position).bind fun place => items[place]?
  | .every => none

def value? (path : JsonPath) (document : Json) : Option Json :=
  path.steps.foldlM (fun value step => step.value? value) document

end JsonPath
end LintTools
