import FenceLint.Config
import FenceLint.Ignore.Pattern
import FenceLint.Markup.Fault
import FenceLint.Tree.Basic

/-!
# Failures

Everything that can stop a run, as its cause.  The wording of all of them is given in one place.
-/

namespace FenceLint

/-- Why a run stops. -/
inductive Failure where
  /-- The configuration cannot be used. -/
  | config (error : ConfigError)
  /-- The rule engine gave up, for a reason of its own. -/
  | scan (reason : String)
  /-- A rule without a name was to be switched. -/
  | blankRule
  /-- A line of an ignore file, or an include pattern, is no pattern. -/
  | pattern (error : Ignore.PatternError)
  /-- A path does not lie below the directory that it should be relative to. -/
  | outside (path directory : String)
  /-- The lists of findings do not pair with the blocks. -/
  | unpaired (findings blocks : Nat)
  /-- The bytes of a file are no text. -/
  | decode (error : Text.DecodeError)
  /-- A file cannot be opened. -/
  | opening (fault : OpenFault) (path : String)
  /-- A text cannot be printed. -/
  | markup (fault : Markup.Fault)
  /-- The directory of a search cannot be resolved, because its path holds a null character. -/
  | unresolvable
deriving Repr, Inhabited

namespace Failure

/-- The complaint about an empty argument, as a pair of its name and a sentence. -/
def emptyArgument (name : String) : String :=
  "('" ++ name ++ "', \"Parameter named '" ++ name ++ "' cannot be empty.\")"

/-- The wording of a failure. -/
def message : Failure → String
  | config e => e.message
  | scan reason => "pymarkdown scan failed: " ++ reason
  | blankRule => emptyArgument "rule_identifier"
  | pattern e => e.message
  | outside path directory =>
    Text.quote path ++ " is not in the subpath of " ++ Text.quote directory ++
      " OR one path is relative and the other is absolute."
  | unpaired findings blocks =>
    "Got " ++ toString findings ++ " finding lists for " ++ toString blocks ++ " blocks"
  | decode e => e.message
  | opening fault path => fault.message path
  | markup fault => fault.message
  | unresolvable => "lstat: embedded null character in path"

end Failure

namespace Tree

/-- Whether a regular file stands at a path. -/
def isFile (t : Tree) (p : Path) : Except Failure Bool :=
  match t.node? p with
  | .error fault => .error (.opening fault (t.pathText p))
  | .ok (some (.file _)) => .ok true
  | .ok _ => .ok false

/-- The absolute path of a directory to search, without names that go up. -/
def resolve (p : Path) : Except Failure Path :=
  if p.hasNull then .error .unresolvable else .ok p.resolve

/-- The text of a file, with line ends unified. -/
def readText (t : Tree) (p : Path) : Except Failure String :=
  match t.lookup p with
  | .error fault => .error (.opening fault (t.pathText p))
  | .ok .directory => .error (.opening .isDirectory (t.pathText p))
  | .ok (.file bytes) =>
    match Text.Utf8.decode bytes with
    | .error e => .error (.decode e)
    | .ok cs => .ok (String.ofList (Text.unifyNewlines cs))

end Tree

end FenceLint
