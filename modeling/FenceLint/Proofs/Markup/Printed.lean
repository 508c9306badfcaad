import Mathlib.Data.List.SplitBy
import FenceLint.Markup.Console
import FenceLint.Proofs.Markup.Rendered

/-!
# Lines on a plain console

A console holds a line if it does not wrap it (`Console.Holds`), and it does so with two columns for
every character (`Console.holds_of_width`).  A plain console that holds what the markup of a line
shows prints just that, and a line feed (`Console.print_markup`).
-/

namespace FenceLint

namespace Text

/-! ## Columns -/

theorem charWidth_le (c : Char) : charWidth c ≤ 2 := by
  rw [charWidth]
  split
  · omega
  · split
    · omega
    · split
      · omega
      · split <;> omega

theorem widening_le (last : Option Char) : widening last ≤ 1 := by
  cases last with
  | none => exact Nat.zero_le 1
  | some c =>
    rw [widening]
    split <;> omega

theorem widthAfter_le (last : Option Char) (cs : List Char) :
    widthAfter last cs ≤ 2 * cs.length := by
  fun_induction widthAfter last cs with
  | case1 => exact Nat.zero_le _
  | case2 last c h => exact Nat.zero_le _
  | case3 last c h d cs ih =>
    simp only [List.length_cons]
    omega
  | case4 last c cs h h' ih =>
    have hwide := widening_le last
    rw [List.length_cons]
    omega
  | case5 last c cs h h' ih =>
    have hwide := charWidth_le c
    rw [List.length_cons]
    omega

/-- No character takes more than two columns. -/
theorem width_le (cs : List Char) : width cs ≤ 2 * cs.length := widthAfter_le none cs

end Text

namespace Markup

theorem columns_le (cells : List Cell) : columns cells ≤ 2 * cells.length := by
  simpa [columns] using Text.width_le (cells.map (·.char))

/-! ## One text after the other -/

namespace Printed

theorem append_assoc (a b c : Printed) : a ++ b ++ c = a ++ (b ++ c) := by
  by_cases ha : a.fault.isSome = true
  · rw [append_of_fault a b ha, append_of_fault a c ha, append_of_fault a _ ha]
  · have ha' : a.fault = none := by simpa using ha
    by_cases hb : b.fault.isSome = true
    · have hab : (a ++ b).fault.isSome = true := by rwa [append_of_no_fault a b ha']
      rw [append_of_fault _ c hab, append_of_fault b c hb]
    · have hb' : b.fault = none := by simpa using hb
      have hab : (a ++ b).fault = none := by rwa [append_of_no_fault a b ha']
      rw [append_of_no_fault _ c hab, append_of_no_fault b c hb', append_of_no_fault a b ha',
        append_of_no_fault a _ ha', String.append_assoc]

theorem nil_append (a : Printed) : {} ++ a = a := by
  rw [append_of_no_fault _ a rfl]
  cases a
  simp

theorem append_nil (a : Printed) : a ++ {} = a := by
  by_cases ha : a.fault.isSome = true
  · exact append_of_fault a {} ha
  · have ha' : a.fault = none := by simpa using ha
    rw [append_of_no_fault a {} ha']
    cases a
    simpa using ha'.symm

theorem join_append (as bs : List Printed) : join (as ++ bs) = join as ++ join bs := by
  induction as with
  | nil => exact (nil_append _).symm
  | cons a as ih =>
    calc join (a :: as ++ bs) = a ++ join (as ++ bs) := rfl
      _ = a ++ join as ++ join bs := by rw [ih, append_assoc]

theorem join_flatMap {α : Type} (l : List α) (f : α → List Printed) :
    join (l.flatMap f) = join (l.map fun a => join (f a)) := by
  induction l with
  | nil => rfl
  | cons a l ih => rw [List.flatMap_cons, join_append, ih]; rfl

end Printed

/-! ## Lines that are not wrapped -/

theorem cutLines_eq {cells : List Cell} (h : '\n' ∉ cells.map (·.char)) :
    cutLines cells = [cells] := by
  suffices hgo : ∀ line, cutLines.go line cells = [line.reverse ++ cells] from hgo []
  induction cells with
  | nil => simp [cutLines.go]
  | cons c cells ih =>
    intro line
    rw [List.map_cons, List.mem_cons, not_or] at h
    rw [cutLines.go, if_neg (by simpa using Ne.symm h.1), ih h.2]
    simp

theorem expandTabs_eq {cells : List Cell} (h : '\t' ∉ cells.map (·.char)) :
    expandTabs cells = cells := by
  have hcut : cutTabs cells = [cells] := by
    suffices hgo : ∀ part, cutTabs.go part cells = [part.reverse ++ cells] from hgo []
    induction cells with
    | nil => simp [cutTabs.go]
    | cons c cells ih =>
      intro part
      rw [List.map_cons, List.mem_cons, not_or] at h
      rw [cutTabs.go, if_neg (by simpa using Ne.symm h.1), ih h.2]
      simp
  have hfill : fillTab 0 cells = cells := by
    rw [fillTab]
    cases hlast : cells.getLast? with
    | none => exact (List.getLast?_eq_none_iff.mp hlast).symm
    | some c =>
      have hmem : c.char ∈ cells.map (·.char) := List.mem_map_of_mem (List.mem_of_getLast? hlast)
      have hc : c.char ≠ '\t' := fun hc => h (hc ▸ hmem)
      simp [hc]
  rw [expandTabs, hcut, fillTabs, fillTabs, List.append_nil]
  simpa using hfill

/-- The words of a line have no more characters than the line. -/
theorem length_flatten_wordsWithin_le (n : Nat) (cells : List Cell) :
    (wordsWithin n cells).flatten.length ≤ cells.length := by
  induction n generalizing cells with
  | zero => exact Nat.zero_le _
  | succ n ih =>
    have hsplit : ∀ (p : Cell → Bool) (cs : List Cell),
        (cs.takeWhile p).length + (cs.dropWhile p).length = cs.length := by
      intro p cs
      rw [← List.length_append, List.takeWhile_append_dropWhile]
    rw [wordsWithin]
    split
    · exact Nat.zero_le _
    · have hlead := hsplit Cell.isBlank cells
      have hbody := hsplit (!Cell.isBlank ·) (cells.dropWhile Cell.isBlank)
      have htrail := hsplit Cell.isBlank
        ((cells.dropWhile Cell.isBlank).dropWhile (!Cell.isBlank ·))
      have hrest := ih (((cells.dropWhile Cell.isBlank).dropWhile (!Cell.isBlank ·)).dropWhile
        Cell.isBlank)
      simp only [List.flatten_cons, List.length_append]
      omega

/-- No word is put on a new line while there are two columns for every character. -/
theorem breaks_eq_nil {width : Nat} {words : List (List Cell)} (start : Nat) {column : Nat}
    (h : column + 2 * words.flatten.length ≤ width) :
    breaks width start column words = [] := by
  induction words generalizing start column with
  | nil => rfl
  | cons word words ih =>
    have hword : wordColumns word ≤ 2 * word.length := by
      refine (columns_le _).trans ?_
      rw [List.length_reverse]
      have hdrop := (List.dropWhile_sublist Cell.isBlank (l := word.reverse)).length_le
      rw [List.length_reverse] at hdrop
      omega
    have hcolumns := columns_le word
    rw [List.flatten_cons, List.length_append] at h
    rw [breaks]
    simp only
    rw [if_pos (by omega)]
    exact ih _ (by omega)

/-- A line is not wrapped if there are two columns for every character. -/
theorem wrap_eq {width : Nat} {cells : List Cell} (hfeed : '\n' ∉ cells.map (·.char))
    (htab : '\t' ∉ cells.map (·.char)) (hwidth : 2 * cells.length ≤ width) :
    wrap width cells = [cells] := by
  have hwords := length_flatten_wordsWithin_le cells.length cells
  have hbreaks : breaks width 0 0 (words cells) = [] := breaks_eq_nil 0 (by rw [words]; omega)
  have hblanks : cropBlanks width cells = cells := by
    rw [cropBlanks, Nat.sub_eq_zero_of_le (show cells.length ≤ width by omega), Nat.min_zero,
      Nat.sub_zero, List.take_length]
  have hcrop : crop width cells = cells := by
    rw [crop]
    simp only [hblanks]
    exact if_pos ((columns_le cells).trans hwidth)
  rw [wrap, cutLines_eq hfeed, List.flatMap_singleton, wrapLine, expandTabs_eq htab]
  simp [hbreaks, cutAtOffsets, hcrop]

namespace Console

/-- The console is wide enough not to wrap the text of some markup. -/
def Holds (c : Console) (markup : String) : Prop :=
  ∀ cells, render markup = .ok cells → wrap c.width cells = [cells]

/-- A console with two columns for every character does not wrap a line. -/
theorem holds_of_width {c : Console} {lead : String} {spans : List Span}
    (hsound : Line.IsSound lead spans) {line : List Char}
    (hline : visible (Line.mk lead spans).markup.toList = line) (hfeed : '\n' ∉ line)
    (htab : '\t' ∉ line) (hwidth : 2 * line.length ≤ c.width) :
    c.Holds (Line.mk lead spans).markup := by
  intro cells hcells
  obtain ⟨cells', hcells', hchars⟩ := Line.exists_render hsound
  obtain rfl : cells' = cells := by
    rw [hcells] at hcells'
    exact (Except.ok.inj hcells').symm
  obtain rfl := hchars.trans hline
  exact wrap_eq hfeed htab (by simpa using hwidth)

/-! ## Plain consoles -/

/-- A plain console writes only the characters of a line. -/
theorem writeLine_plain {c : Console} (hplain : c.ansi = false) (cells : List Cell) :
    c.writeLine cells = cells.map (·.char) ++ ['\n'] := by
  have hrun : ∀ run : List Cell, c.writeRun run = run.map (·.char) := by
    intro run
    cases run with
    | nil => rfl
    | cons first run => simp [writeRun, hplain]
  rw [writeLine, List.flatMap_congr fun run _ => hrun run, ← List.map_flatMap, List.flatMap_id',
    List.flatten_splitBy]

/-- A plain console that holds what the markup of a line shows prints it. -/
theorem print_markup {c : Console} (hplain : c.ansi = false) {lead : String} {spans : List Span}
    (hsound : Line.IsSound lead spans)
    (hholds : c.Holds (Line.mk lead spans).markup) :
    c.print (Line.mk lead spans).markup =
      { text := String.ofList (visible (Line.mk lead spans).markup.toList ++ ['\n']) } := by
  obtain ⟨cells, hcells, hchars⟩ := Line.exists_render hsound
  rw [print, hcells]
  simp only
  rw [hholds cells hcells, List.flatMap_singleton, writeLine_plain hplain, hchars]

end Console

end Markup

end FenceLint
