import FenceLint.Command
import FenceLint.Rules.LineStart

/-!
# The program

Reads the tree below the working directory, carries out the command on it, and prints what came of
it.  The scanner of rules is the one that the program is built with; without rules of its own it
finds nothing.
-/

namespace FenceLint.Main

/-- The entries below a directory whose own entries are given, with their files read. -/
partial def collect (above : List String) (found : Array IO.FS.DirEntry) : IO (List Entry) := do
  let lists ← found.toList.mapM fun e => do
    let parts := above ++ [e.fileName]
    if ← e.path.isDir then
      return ⟨parts, .directory⟩ :: (← collect parts (← e.path.readDir))
    else return [⟨parts, .file (← IO.FS.readBinFile e.path).toList⟩]
  return lists.flatten

/-- The tree below the working directory. -/
def workingTree : IO Tree := do
  let here ← IO.currentDir
  return ⟨here.toString, ← collect [] (← here.readDir)⟩

/-- The engine of the program. -/
def engine : Engine := Rules.scanning (Rules.lineStartScanner [])

end FenceLint.Main

/-- Runs the command that the arguments stand for. -/
def main (args : List String) : IO UInt32 := do
  let outcome := FenceLint.Command.execute (← FenceLint.Main.workingTree) FenceLint.Main.engine args
  IO.print outcome.stdout
  IO.eprint (outcome.stderr.getD "")
  for (_, message) in outcome.logs do
    IO.eprintln message
  return UInt32.ofNat outcome.exitCode
