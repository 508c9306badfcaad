import FenceLint.Markup.Wrap

/-!
# Consoles

A console prints markup as plain text, or with escape sequences for the styles.  What is printed one
after the other adds up, until a text is at fault: nothing is printed for it, nor after it.
-/

namespace FenceLint.Markup

/-- What was printed, and the fault that ended the printing. -/
structure Printed where
  /-- The text. -/
  text : String := ""
  /-- The fault of the text that came next. -/
  fault : Option Fault := none
deriving Repr, DecidableEq, Inhabited

namespace Printed

/-- Goes on printing unless a fault has ended it. -/
protected def append (a b : Printed) : Printed :=
  if a.fault.isSome then a else ⟨a.text ++ b.text, b.fault⟩

instance : Append Printed := ⟨Printed.append⟩

/-- Prints one after the other. -/
def join (ps : List Printed) : Printed := ps.foldr (· ++ ·) {}

/-- After a fault nothing more is printed. -/
theorem append_of_fault (a b : Printed) (h : a.fault.isSome = true) : a ++ b = a :=
  if_pos h

/-- Without a fault the texts follow each other. -/
theorem append_of_no_fault (a b : Printed) (h : a.fault = none) :
    a ++ b = ⟨a.text ++ b.text, b.fault⟩ := if_neg (by simp [h])

end Printed

/-- How a console prints. -/
structure Console where
  /-- How many columns it has. -/
  width : Nat
  /-- Whether it takes escape sequences. -/
  ansi : Bool := false
  /-- Whether it shows colours. -/
  color : Bool := true
deriving Repr, DecidableEq, Inhabited

namespace Console

/-- Cells of one run, with the escape sequences of their style. -/
def writeRun (c : Console) (cells : List Cell) : List Char :=
  let chars := cells.map (·.char)
  match cells with
  | [] => []
  | first :: _ =>
    let codes := if c.ansi then first.style.codes c.color else []
    if codes.isEmpty then chars
    else
      '\x1b' :: '[' :: (String.intercalate ";" (codes.map toString)).toList ++ 'm' :: chars ++
        ['\x1b', '[', '0', 'm']

/-- A line, run by run. -/
def writeLine (c : Console) (cells : List Cell) : List Char :=
  (cells.splitBy fun a b => a.run == b.run).flatMap c.writeRun ++ ['\n']

/-- What is printed for a markup text. -/
def print (c : Console) (markup : String) : Printed :=
  match render markup with
  | .ok cells => { text := String.ofList ((wrap c.width cells).flatMap c.writeLine) }
  | .error fault => { fault := some fault }

/-- What is printed for a markup text that shows some numbers. -/
def printNumbers (c : Console) (numbers : List Int) (markup : String) : Printed :=
  if numbers.all Text.isShort then c.print markup else { fault := some .longNumber }

/-- What is printed for nothing. -/
def blankLine : Printed := { text := "\n" }

end Console

end FenceLint.Markup
