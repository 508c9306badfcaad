import FenceLint.Rules.Engine

/-!
# Line start rules

The simplest rules: each reports the lines that start with a given text.  A scanner of such rules
takes no notice of any setting but those that switch rules off.
-/

namespace FenceLint.Rules

/-- The lines of a text, numbered from 1; what follows the last line feed counts as a line. -/
def numberedLines (content : String) : List (Int × List Char) :=
  (Text.cutAt '\n' content.toList).zipIdx.map fun (line, i) => ((i : Int) + 1, line)

/-- A rule that reports the lines that start with a text. -/
structure LineStartRule where
  /-- What a reported line starts with. -/
  start : String
  /-- The identifier of the rule. -/
  rule : String
  /-- The aliases of the rule, divided by commas. -/
  aliases : Option String
  /-- What the rule demands. -/
  description : String
  /-- The column to report. -/
  column : Option Int
  /-- More to report. -/
  extra : Option String
deriving Repr, DecidableEq, Inhabited

namespace LineStartRule

/-- The rule is switched off, under its identifier or one of its aliases. -/
def isOff (r : LineStartRule) (settings : List Setting) : Bool :=
  let names := Text.lower r.rule ::
    (Text.pieces ',' (r.aliases.getD "")).map Text.strip
  settings.any fun
    | .disable name => names.contains name
    | _ => false

/-- The report of the rule on a line that starts with its text. -/
def report? (r : LineStartRule) (number : Int) (line : List Char) : Option Violation :=
  if r.start.toList.isPrefixOf line then
    some ⟨number, r.column, r.rule, r.aliases, r.description, r.extra⟩
  else none

end LineStartRule

/-- A scanner of line start rules: the reports line by line, and on each line rule by rule. -/
def lineStartScanner (rules : List LineStartRule) : Scanner := fun settings content =>
  let on := rules.filter fun r => !r.isOff settings
  .ok ((numberedLines content).flatMap fun (number, line) =>
    on.filterMap fun r => r.report? number line)

/-- The text `part` stands somewhere in `cs`. -/
def occursIn (part : List Char) : List Char → Bool
  | [] => part.isEmpty
  | c :: cs => part.isPrefixOf (c :: cs) || occursIn part cs

/-- A scanner that fails on texts which contain `part`, and otherwise does as another one. -/
def failingOn (part reason : String) (scanner : Scanner) : Scanner := fun settings content =>
  if occursIn part.toList content.toList then .error reason else scanner settings content

/-- A finding on every line that starts with a text. -/
structure LineStartFinding where
  /-- What a reported line starts with. -/
  start : String
  /-- The rule and its aliases. -/
  ruleNames : List String
  /-- What the rule demands. -/
  description : String
  /-- The column to report. -/
  column : Option Int
  /-- More to report. -/
  detail : Option String
deriving Repr, DecidableEq, Inhabited

/-- An engine of its own, which looks at nothing but the starts of lines. -/
def lineStartEngine (rules : List LineStartFinding) : Engine := fun content config => do
  Traced.emit (.lint content config)
  return (numberedLines content).flatMap fun (number, line) =>
    rules.filterMap fun r =>
      if r.start.toList.isPrefixOf line then
        some ⟨r.ruleNames, r.description, number, r.column, r.detail⟩
      else none

end FenceLint.Rules
