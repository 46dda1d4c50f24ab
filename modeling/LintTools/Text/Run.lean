/-! Runs of elements inside lists: what stands behind a given start, and whether a given run occurs
at all. -/
namespace LintTools.Text

variable {α : Type} [DecidableEq α]

def after? : (start items : List α) → Option (List α)
  | [], items => some items
  | _ :: _, [] => none
  | s :: start, item :: items => if s = item then after? start items else none

def occursIn (run : List α) : List α → Bool
  | [] => run.isEmpty
  | item :: items => (after? run (item :: items)).isSome || occursIn run items

def startsWith (start items : List α) : Bool := (after? start items).isSome

def endsWith (ending items : List α) : Bool := startsWith ending.reverse items.reverse

end LintTools.Text
