import LintTools.Path.Normal
import LintTools.Text.Run

/-! What a run can see of the machine, and absolute paths from path texts: a leading tilde is the
home directory, and what is relative is taken from a root. -/
namespace LintTools

structure Surroundings where
  home : Option Path
  currentDirectory : Path
  pathExists : Path → Bool

namespace Path

def behindTilde? (text : String) : Option String :=
  let cs := text.toList
  if cs = ['~'] then some ""
  else ((Text.after? ['~', '/'] cs).or (Text.after? ['~', '\\'] cs)).map String.ofList

def expandHome (s : Surroundings) (text : String) : Path :=
  match behindTilde? text, s.home with
  | some rest, some home => if rest.isEmpty then home else home ++ ⟨rest⟩
  | _, _ => ⟨text⟩

def absolute (s : Surroundings) (path : Path) : Path :=
  if path.isAbsolute || path.text.isEmpty then path else s.currentDirectory ++ path

def resolve (s : Surroundings) (root : Path) (text : String) : Path :=
  (absolute s (root ++ expandHome s text)).normal

end Path
end LintTools
