import FenceLint.Text.Blank
import FenceLint.Text.Case
import FenceLint.Text.Lines

/-!
# Findings

What a rule has to say about a line, and how the raw report of a scanner becomes a finding.
-/

namespace FenceLint

/-- A problem that a rule found in a text. -/
structure Finding where
  /-- The rule and its aliases. -/
  ruleNames : List String
  /-- What the rule demands. -/
  description : String
  /-- The line of the text, counted from 1. -/
  line : Int
  /-- The column, counted from 1, where known. -/
  column : Option Int
  /-- What is wrong in this place. -/
  detail : Option String
deriving Repr, DecidableEq, Inhabited

/-- The report of a scanner on a line. -/
structure Violation where
  /-- The line, counted from 1. -/
  line : Int
  /-- The column, or 0 where it is not known. -/
  column : Option Int
  /-- The identifier of the rule. -/
  rule : String
  /-- The aliases of the rule, divided by commas. -/
  aliases : Option String
  /-- What the rule demands. -/
  description : String
  /-- More on this place, usually between brackets. -/
  extra : Option String
deriving Repr, DecidableEq, Inhabited

namespace Finding

/-- A pair of brackets around the whole text is taken away, with the blanks next to them. -/
def unwrap (cs : List Char) : List Char :=
  match cs with
  | '[' :: inner => if inner.getLast? == some ']' then Text.trim inner.dropLast else cs
  | cs => cs

/-- The detail in the extra text of a report: without blanks and brackets around it. -/
def detailOf (extra : Option String) : Option String :=
  match unwrap (Text.trim (extra.getD "").toList) with
  | [] => none
  | cs => some (String.ofList cs)

/-- The identifier of a rule in upper case, and its aliases. -/
def namesOf (rule : String) (aliases : Option String) : List String :=
  Text.upper rule ::
    ((Text.pieces ',' (aliases.getD "")).map Text.strip).filter fun name => !name.isEmpty

/-- The finding of a report. -/
def ofViolation (v : Violation) : Finding :=
  { ruleNames := namesOf v.rule v.aliases
    description := v.description
    line := v.line
    column := v.column.filter (· != 0)
    detail := detailOf v.extra }

end Finding

end FenceLint
