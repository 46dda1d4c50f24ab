import LintTools.Path.Relative
import LintTools.Text.Run

/-! Requirements on paths: runs of segments that a file's path must contain. -/
namespace LintTools.Path

def segments (cs : List Char) : List String :=
  let slashes := cs.map fun c => if c = '\\' then '/' else c
  ((Text.pieces '/' slashes).filter (!·.isEmpty)).map String.ofList

def requirement (text : String) : List String :=
  let slashes := text.toList.map fun c => if c = '\\' then '/' else c
  segments (Text.strip slashes)

def Component.segment? : Component → Option String
  | .name text => some text
  | .parent => some ".."
  | _ => none

def parts (candidate root : Path) : List String :=
  let relative := if candidate.isAbsolute then (candidate.below? root).getD candidate else candidate
  let found := relative.components.filterMap Component.segment?
  if found.isEmpty then segments candidate.text.toList else found

def hasSequence (parts required : List String) : Bool := Text.occursIn required parts

end LintTools.Path
