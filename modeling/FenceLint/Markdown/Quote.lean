import FenceLint.Markdown.Interrupt

/-!
# Block quotes

The lines of a quote lose their marker.  A line without one still belongs to the quote when it may
continue a paragraph; it is then marked as lazy.
-/

namespace FenceLint.Markdown

namespace Line

/-- The line behind its quote marker and one space.  A tab that is wider than the space is kept, and
the column it starts at is remembered. -/
def unquote (l : Line) : Line :=
  match l.body with
  | '>' :: ' ' :: cs => after cs (l.width + 2) 0 1
  | '>' :: '\t' :: cs =>
    if (l.base + (l.width + 1)) % 4 = 3 then after cs (l.width + 2) 0 1
    else after ('\t' :: cs) (l.width + 1) 1 1
  | _ :: cs => after cs (l.width + 1) 0 0
  | [] => l
where
  /-- The line with `text` left of it, which starts at column `col`; its tab stops are shifted by
  `shift`, and `space` columns belong to the marker. -/
  after (text : List Char) (col shift space : Nat) : Line :=
    let (reached, body) := skipIndent (l.base + shift) col text
    { l with text, body, width := reached - col, base := l.width + 1 + space, lazy := false }

end Line

namespace Region

/-- The lines of a quote. -/
structure Quoted where
  /-- The document with the quote's markers consumed. -/
  lines : Array Line
  /-- The line after the quote. -/
  stop : Nat
  /-- Another block interrupts the quote there. -/
  interrupted : Bool

/-- Line `i` carries a quote marker. -/
def isMarked (r : Region) (i : Nat) : Bool :=
  !r.isOutdented i && (r.body i).head? == some '>'

/-- Consumes the markers of the quote on line `i`. -/
def quoted (r : Region) (i : Nat) : Quoted :=
  let first := (r.line i).unquote
  go (r.stop - (i + 1)) (i + 1) first.isBlank (r.lines.setIfInBounds i first)
where
  /-- Goes on at a line; `after` tells whether the last marked line is blank, after which no lazy
  line may stand. -/
  go : Nat → Nat → Bool → Array Line → Quoted
    | 0, i, _, lines => ⟨lines, i, false⟩
    | n + 1, i, after, lines =>
      if r.isBlank i then ⟨lines, i, false⟩
      else if r.isMarked i then
        let l := (r.line i).unquote
        go n (i + 1) l.isBlank (lines.setIfInBounds i l)
      else if after then ⟨lines, i, false⟩
      else if r.endsQuote i then ⟨lines, i, true⟩
      else go n (i + 1) after (lines.setIfInBounds i { r.line i with lazy := true })

/-- The region inside the quote on line `i`. -/
def insideQuote (r : Region) (i : Nat) : Region :=
  let q := r.quoted i
  { r with
    lines := q.lines
    limit := if q.interrupted then q.stop else r.limit
    stop := q.stop
    margin := 0 }

end Region

end FenceLint.Markdown
