import FenceLint.Text.Blank

/-!
# Comments and trailing commas

JSON with comments is read by turning it into plain JSON first, in two passes: comments are
removed, then every comma that stands before a closing bracket.  Both passes leave string literals
alone.  A quote that opens no complete literal, and a block comment without an end, are kept as
they stand.
-/

namespace FenceLint.Json.Comments

/-- Where a pass stands in the text. -/
inductive Mode where
  /-- Outside of literals and comments. -/
  | code
  /-- Inside a string literal. -/
  | literal
  /-- Inside a string literal, after a backslash. -/
  | escaped
  /-- Inside a comment that ends with the line. -/
  | line
  /-- Inside a block comment. -/
  | block
deriving Repr, DecidableEq

/-- The text after an opening quote holds its closing quote.  A backslash hides the character
after it, a line feed only if `hideNewline`. -/
def closesLiteral (hideNewline : Bool) : List Char → Bool
  | [] => false
  | '\\' :: c :: cs => (hideNewline || c != '\n') && closesLiteral hideNewline cs
  | '\\' :: [] => false
  | c :: cs => c == '"' || closesLiteral hideNewline cs

/-- The text after the start of a block comment holds its end. -/
def closesBlock : List Char → Bool
  | [] => false
  | '*' :: '/' :: _ => true
  | _ :: cs => closesBlock cs

/-- The first pass, from the given mode on: removes comments. -/
def removeFrom : Mode → List Char → List Char
  | _, [] => []
  | .literal, c :: cs =>
    c :: removeFrom (if c == '"' then .code else if c == '\\' then .escaped else .literal) cs
  | .escaped, c :: cs => c :: removeFrom .literal cs
  | .line, c :: cs => if c == '\n' then c :: removeFrom .code cs else removeFrom .line cs
  | .block, '*' :: '/' :: cs => removeFrom .code cs
  | .block, _ :: cs => removeFrom .block cs
  | .code, '/' :: '/' :: cs => removeFrom .line cs
  | .code, '/' :: '*' :: cs =>
    if closesBlock cs then removeFrom .block cs else '/' :: '*' :: removeFrom .code cs
  | .code, c :: cs =>
    c :: removeFrom (if c == '"' && closesLiteral true cs then .literal else .code) cs

/-- A closing bracket follows, after blanks. -/
def closesNext (cs : List Char) : Bool :=
  match cs.dropWhile Text.isBlank with
  | [] => false
  | c :: _ => c == '}' || c == ']'

/-- The second pass, from the given mode on: removes commas before closing brackets. -/
def dropCommasFrom : Mode → List Char → List Char
  | _, [] => []
  | .literal, c :: cs =>
    c :: dropCommasFrom (if c == '"' then .code else if c == '\\' then .escaped else .literal) cs
  | .escaped, c :: cs => c :: dropCommasFrom .literal cs
  | mode, c :: cs =>
    if c == ',' && closesNext cs then dropCommasFrom mode cs
    else c :: dropCommasFrom (if c == '"' && closesLiteral false cs then .literal else mode) cs

/-- A text without its comments. -/
def remove (cs : List Char) : List Char := removeFrom .code cs

/-- A text without its trailing commas. -/
def dropCommas (cs : List Char) : List Char := dropCommasFrom .code cs

/-- A text without comments and trailing commas. -/
def strip (text : String) : String := String.ofList (dropCommas (remove text.toList))

end FenceLint.Json.Comments
