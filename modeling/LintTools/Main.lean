import LintTools.CommandLine.Run

/-! The program: reads its arguments, runs the request on this machine, and prints the outcome. -/
namespace LintTools

def realMachine : CommandLine.Machine IO where
  content path := do
    try return some (← IO.FS.readFile path.text) catch _ => return none
  input := do
    return String.fromUTF8? (← (← IO.getStdin).readBinToEnd)
  home := do
    return (← IO.getEnv "HOME").map Path.mk
  currentDirectory := do
    return ⟨(← IO.currentDir).toString⟩
  existing paths := paths.filterM fun path => do
    try
      let _ ← IO.FS.realPath path.text
      return true
    catch _ => return false

end LintTools

def main (args : List String) : IO UInt32 := do
  match LintTools.CommandLine.Request.read? args with
  | none =>
    IO.eprintln "usage: build|parse DEFINITION [FILES] [--root R] [--output json|raw]"
    return 2
  | some request =>
    match ← (request.run LintTools.realMachine).run with
    | .ok text =>
      IO.print text
      return 0
    | .error failure =>
      IO.eprintln ("Error: " ++ failure.text)
      return 1
