import FenceLint.Block
import FenceLint.Failure
import FenceLint.Finding

/-!
# Reports

The findings of a run, file by file and block by block.  Only blocks with findings have an entry,
under the number of the block in its file.
-/

namespace FenceLint

/-- The findings in one block.  The number of a block is a natural one, as that of the blocks of a
file is; the lines are integers. -/
structure BlockReport where
  /-- The file. -/
  file : String
  /-- The block. -/
  block : Block
  /-- The number of the block in its file, counted from 1. -/
  index : Nat
  /-- What was found. -/
  findings : List Finding
deriving Repr, DecidableEq, Inhabited

/-- The findings in one file. -/
structure FileReport where
  /-- The file. -/
  file : String
  /-- How many blocks it has, a natural number. -/
  blocks : Nat
  /-- The blocks with findings, in order. -/
  entries : List BlockReport
deriving Repr, DecidableEq, Inhabited

/-- The findings of a run. -/
structure Report where
  /-- The files, in order. -/
  files : List FileReport
deriving Repr, DecidableEq, Inhabited

/-- The line of the top file that a finding is on. -/
def Block.fileLine (b : Block) (f : Finding) : Int := b.line + f.line

namespace BlockReport

/-- The findings with their lines in the top file. -/
def located (r : BlockReport) : List (Finding × Int) :=
  r.findings.map fun f => (f, r.block.fileLine f)

end BlockReport

namespace FileReport

/-- Pairs the blocks of a file with their findings, which have to be as many. -/
def ofFindings (file : String) (blocks : List Block) (findings : List (List Finding)) :
    Except Failure FileReport :=
  if blocks.length != findings.length then .error (.unpaired findings.length blocks.length)
  else
    let entries := (blocks.zip findings).zipIdx.filterMap fun ((block, found), i) =>
      if found.isEmpty then none else some ⟨file, block, i + 1, found⟩
    .ok ⟨file, blocks.length, entries⟩

end FileReport

namespace Report

/-- All blocks with findings. -/
def entries (r : Report) : List BlockReport := r.files.flatMap (·.entries)

/-- How many files were linted. -/
def totalFiles (r : Report) : Nat := r.files.length

/-- How many blocks were linted. -/
def totalBlocks (r : Report) : Nat := (r.files.map (·.blocks)).foldr (· + ·) 0

/-- How many problems were found. -/
def totalFindings (r : Report) : Nat :=
  (r.entries.map (·.findings.length)).foldr (· + ·) 0

/-- Nothing was found. -/
def passed (r : Report) : Bool := r.totalFindings == 0

end Report

end FenceLint
