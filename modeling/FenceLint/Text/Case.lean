import FenceLint.Text.Blank
import FenceLint.Text.CaseTable

/-!
# Letter case

Full lower and upper case of a text.  Most letters map to one letter; a few have a longer upper
case form, and the Greek capital sigma has two lower case forms, of which the final one stands at
the end of a word.
-/

namespace FenceLint.Text

/-- The mapping of `c` by the run that holds it; other characters map to themselves. -/
def mapByRuns (runs : List CaseRun) (c : Char) : Char :=
  let n := c.toNat
  match runs.find? fun r => r.first ≤ n && n ≤ r.last && (n - r.first) % r.step == 0 with
  | some r => Char.ofNat (n + r.shift).toNat
  | none => c

/-- A letter with case. -/
def isCased (c : Char) : Bool := inRanges casedRanges c.toNat

/-- A character that is passed over between letters of a word. -/
def isCaseIgnorable (c : Char) : Bool := inRanges caseIgnorableRanges c.toNat

/-- The next character that is not passed over has case. -/
def nextIsCased (cs : List Char) : Bool :=
  match cs.dropWhile isCaseIgnorable with
  | [] => false
  | c :: _ => isCased c

/-- The lower case of `c`, which stands after `before` (nearest first) and before `after`. -/
def lowerChar (before : List Char) (c : Char) (after : List Char) : List Char :=
  if c.toNat < 128 then [c.toLower]
  else if c == 'Σ' then (if nextIsCased before && !nextIsCased after then ['ς'] else ['σ'])
  else if c == 'İ' then ['i', '\u0307']
  else [mapByRuns lowerRuns c]

/-- The lower case of a text that stands after `before` (nearest first). -/
def lowerFrom : List Char → List Char → List Char
  | _, [] => []
  | before, c :: cs => lowerChar before c cs ++ lowerFrom (c :: before) cs

/-- The lower case of a text. -/
def lower (s : String) : String := String.ofList (lowerFrom [] s.toList)

/-- The upper case of a character. -/
def upperChar (c : Char) : List Char :=
  if c.toNat < 128 then [c.toUpper]
  else
    match upperLong.lookup c.toNat with
    | some cs => cs.map Char.ofNat
    | none => [mapByRuns upperRuns c]

/-- The upper case of a text. -/
def upper (s : String) : String := String.ofList (s.toList.flatMap upperChar)

end FenceLint.Text
