import FenceLint.Block
import FenceLint.Discover
import FenceLint.Report
import FenceLint.Rules.Engine

/-!
# Runs

A run loads the configuration, finds the files, extracts the blocks of each file, lints them one
by one and gathers the findings.  The first failure stops it.
-/

namespace FenceLint

namespace Config

/-- The names of configuration files, in order of preference. -/
def fileNames : List String := [".markdownlint.jsonc", ".markdownlint.json"]

/-- The configuration file of a directory, if it has one. -/
def find (t : Tree) (root : Path) : Except Failure (Option Path) :=
  (fileNames.map root.child).findM? t.isFile

/-- Reads a configuration file. -/
def loadFile (t : Tree) (path : Path) : Traced Config := do
  Traced.log .debug ("Loading markdownlint config from " ++ t.pathText path)
  let text ← Traced.ofExcept (t.readText path)
  Traced.ofExcept ((Config.parse text (t.pathText path)).mapError .config)

/-- Loads the configuration: the file that is asked for, which has to exist, or that of the
directory, or an empty one. -/
def load (t : Tree) (root : Path) (path? : Option Path) : Traced Config := do
  match path? with
  | some path =>
    if ← Traced.ofExcept (t.isFile path) then loadFile t path
    else Traced.fail (.config (.notFound (t.pathText path)))
  | none =>
    match ← Traced.ofExcept (find t root) with
    | some path => loadFile t path
    | none =>
      Traced.log .debug
        ("No markdownlint config found in " ++ t.pathText root ++ ", using rule defaults")
      return []

end Config

/-- The Markdown blocks of a file. -/
def extractFile (t : Tree) (path : Path) (display : String) (limit : Option Int) :
    Except Failure (List Block) :=
  (t.readText path).map fun text => extract text { file := display } limit

/-- The path of a file as it is shown: from the root, if it lies below. -/
def displayPath (t : Tree) (root path : Path) : String :=
  match path.relativeTo? root with
  | some parts => Path.partsText parts
  | none => t.pathText path

/-- Lints the blocks of one file. -/
def lintFile (t : Tree) (root : Path) (config : Config) (engine : Engine) (limit : Option Int)
    (path : Path) : Traced FileReport := do
  let display := displayPath t root path
  let blocks ← Traced.ofExcept (extractFile t path display limit)
  Traced.emit (.scanned display blocks.length)
  let findings ← blocks.mapM fun b => engine.lintNested config b.content
  let report ← Traced.ofExcept (FileReport.ofFindings display blocks findings)
  Traced.log .debug
    (display ++ ": " ++ toString blocks.length ++ " block(s), " ++
      toString report.entries.length ++ " with findings")
  return report

/-- Lints the blocks of files, in order. -/
def lintFiles (t : Tree) (root : Path) (config : Config) (engine : Engine) (limit : Option Int)
    (paths : List Path) : Traced Report := do
  let files ← paths.mapM (lintFile t root config engine limit)
  return ⟨files⟩

/-- A whole run below a directory. -/
def run (t : Tree) (root : Path) (configPath : Option Path) (patterns : List String)
    (engine : Engine) (limit : Option Int) : Traced Report := do
  let root ← Traced.ofExcept (Tree.resolve root)
  let config ← Config.load t root configPath
  let files ← discover t root patterns none
  Traced.emit (.discovered files.length)
  lintFiles t root config engine limit
    (files.map fun parts => { root with parts := root.parts ++ parts })

end FenceLint
