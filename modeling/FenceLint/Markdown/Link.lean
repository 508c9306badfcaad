import FenceLint.Text.Blank

/-!
# Link destinations

Reading the destination of a link, and the check that refuses schemes which run code or reach the
local machine.
-/

namespace FenceLint.Markdown.Link

/-- The characters that a backslash makes literal. -/
def isPunctuation (c : Char) : Bool :=
  c.toNat < 0x80 && 0x20 < c.toNat && c.toNat != 0x7f && !c.isAlphanum

/-! ## Character references -/

/-- The named references that matter to a scheme: the marks of a scheme, and the blanks that
trimming removes before it. -/
def namedReferences : List (String × List Char) :=
  [("colon", [':']), ("sol", ['/']), ("semi", [';']), ("Tab", ['\t']), ("NewLine", ['\n']),
   ("nbsp", ['\u00a0']), ("NonBreakingSpace", ['\u00a0']), ("ensp", ['\u2002']),
   ("emsp", ['\u2003']), ("emsp13", ['\u2004']), ("emsp14", ['\u2005']), ("numsp", ['\u2007']),
   ("puncsp", ['\u2008']), ("thinsp", ['\u2009']), ("ThinSpace", ['\u2009']),
   ("hairsp", ['\u200a']), ("VeryThinSpace", ['\u200a']), ("MediumSpace", ['\u205f']),
   ("ThickSpace", ['\u205f', '\u200a']), ("fjlig", ['f', 'j'])]

/-- The value of a digit of base ten or sixteen. -/
def digitValue? (base : Nat) (c : Char) : Option Nat :=
  let n := c.toNat
  let v :=
    if c.isDigit then some (n - '0'.toNat)
    else if 'a' ≤ c && c ≤ 'f' then some (n - 'a'.toNat + 10)
    else if 'A' ≤ c && c ≤ 'F' then some (n - 'A'.toNat + 10)
    else none
  v.filter (· < base)

/-- The value of one to eight digits. -/
def digitsValue? (base : Nat) (cs : List Char) : Option Nat :=
  if cs.isEmpty || 8 < cs.length then none
  else cs.foldlM (fun n c => (digitValue? base c).map (base * n + ·)) 0

/-- Code points that a numeric reference may name. -/
def isReferable (n : Nat) : Bool :=
  !(0xd800 ≤ n && n ≤ 0xdfff) && !(0xfdd0 ≤ n && n ≤ 0xfdef) && n % 0x10000 < 0xfffe &&
    !(n ≤ 8) && n != 0x0b && !(0x0e ≤ n && n ≤ 0x1f) && !(0x7f ≤ n && n ≤ 0x9f) && n ≤ 0x10ffff

/-- What the reference with this name stands for. -/
def referenceText? (name : List Char) : Option (List Char) :=
  let number :=
    match name with
    | '#' :: c :: cs =>
      if c == 'x' || c == 'X' then digitsValue? 16 cs else digitsValue? 10 (c :: cs)
    | _ => none
  match number with
  | some n => if isReferable n then some [Char.ofNat n] else none
  | none => namedReferences.lookup (String.ofList name)

/-- The name of a reference after its ampersand, and what follows the semicolon. -/
def referenceName? (cs : List Char) : Option (List Char × List Char) :=
  match cs with
  | [] => none
  | c :: cs =>
    let tail := cs.takeWhile Char.isAlphanum
    match cs.dropWhile Char.isAlphanum with
    | ';' :: rest =>
      if (c.isAlpha || c == '#') && 1 ≤ tail.length && tail.length ≤ 31 then some (c :: tail, rest)
      else none
    | _ => none

/-- Replaces backslash escapes and character references, `fuel` characters at most. -/
def unescapeWithin : Nat → List Char → List Char
  | 0, cs => cs
  | _, [] => []
  | n + 1, '\\' :: c :: cs =>
    if isPunctuation c then c :: unescapeWithin n cs else '\\' :: unescapeWithin n (c :: cs)
  | n + 1, '&' :: cs =>
    match referenceName? cs with
    | some (name, rest) =>
      (referenceText? name).getD ('&' :: name ++ [';']) ++ unescapeWithin n rest
    | none => '&' :: unescapeWithin n cs
  | n + 1, c :: cs => c :: unescapeWithin n cs

/-- Replaces backslash escapes and character references. -/
def unescape (cs : List Char) : List Char := unescapeWithin cs.length cs

/-! ## Schemes -/

/-- Schemes that a destination may not have. -/
def refusedSchemes : List String := ["vbscript:", "javascript:", "file:", "data:"]

/-- Embedded images, which are allowed all the same. -/
def allowedImages : List String :=
  ["data:image/gif;", "data:image/png;", "data:image/jpeg;", "data:image/webp;"]

/-- The destination may be linked to. -/
def isAllowed (destination : List Char) : Bool :=
  let url := (Text.trim (unescape destination)).map Char.toLower
  let starts := fun (s : String) => s.toList.isPrefixOf url
  !refusedSchemes.any starts || allowedImages.any starts

/-! ## Reading -/

/-- The rest of a destination in angle brackets: its text and what follows. -/
def bracketed? : List Char → Option (List Char × List Char)
  | [] => none
  | '\\' :: c :: cs => (bracketed? cs).map fun (d, rest) => ('\\' :: c :: d, rest)
  | c :: cs =>
    if c == '\n' || c == '<' then none
    else if c == '>' then some ([], cs)
    else (bracketed? cs).map fun (d, rest) => (c :: d, rest)

/-- The deepest nesting of parentheses in a bare destination. -/
def maxParentheses : Nat := 32

/-- The rest of a bare destination with `depth` open parentheses: its text and what follows. -/
def bare? : Nat → List Char → Option (List Char × List Char)
  | depth, [] => if depth = 0 then some ([], []) else none
  | depth, '\\' :: c :: cs =>
    if c == ' ' then (if depth = 0 then some ([], '\\' :: c :: cs) else none)
    else (bare? depth cs).map fun (d, rest) => ('\\' :: c :: d, rest)
  | depth, c :: cs =>
    if c.toNat ≤ 0x20 || c.toNat == 0x7f || (c == ')' && depth = 0) then
      if depth = 0 then some ([], c :: cs) else none
    else
      let depth? :=
        if c == '(' then (if depth < maxParentheses then some (depth + 1) else none)
        else if c == ')' then some (depth - 1)
        else some depth
      depth?.bind fun depth => (bare? depth cs).map fun (d, rest) => (c :: d, rest)

/-- A destination at the start of `cs`, and what follows it. -/
def destination? (cs : List Char) : Option (List Char × List Char) :=
  match cs with
  | '<' :: cs => bracketed? cs
  | cs => (bare? 0 cs).filter (!·.1.isEmpty)

end FenceLint.Markdown.Link
