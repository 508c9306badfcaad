import FenceLint.Json.Value
import FenceLint.Text.Integer

/-!
# Reading JSON

Readers take the characters that are left and give a value with the characters after it.  A fault
carries the characters from the place it is reported at, so that the place can be counted from the
end of the text.  Whole numbers may not have too many digits, and lists and objects may not nest too
deep; a text beyond these limits is not wrong, but it is not read either.

Texts are made of characters.  Half of a surrogate pair is none, so where one is escaped on its own
the replacement character is read.
-/

namespace FenceLint.Json

/-- A limit of the reader that a text is beyond. -/
inductive Limit where
  /-- A whole number has this many digits. -/
  | digits (count : Nat)
  /-- A list is nested too deep. -/
  | listDepth
  /-- An object is nested too deep. -/
  | objectDepth
deriving Repr, DecidableEq, Inhabited

namespace Limit

/-- How deep lists and objects may nest. -/
def maxDepth : Nat := 990

/-- The complaint about a list or an object that is nested too deep. -/
def depthMessage (kind : String) : String :=
  "maximum recursion depth exceeded while decoding a JSON " ++ kind ++ " from a unicode string"

/-- The wording of a complaint. -/
def message : Limit → String
  | digits count => Text.digitsMessage (": value has " ++ toString count ++ " digits")
  | listDepth => depthMessage "array"
  | objectDepth => depthMessage "object"

end Limit

/-- What is wrong with a text. -/
inductive Fault where
  /-- The text starts with a byte order mark. -/
  | byteOrderMark
  /-- No value starts here. -/
  | value
  /-- No key of an object starts here. -/
  | key
  /-- No colon follows a key. -/
  | colon
  /-- Neither a comma nor the end of the list or object follows. -/
  | comma
  /-- Text follows the value. -/
  | extra
  /-- A string literal does not end. -/
  | unterminated
  /-- A string literal holds a control character. -/
  | control
  /-- A backslash starts no escape. -/
  | escape
  /-- Four hexadecimal digits and more text have to follow. -/
  | unicodeEscape
  /-- The text is beyond a limit. -/
  | limit (l : Limit)
deriving Repr, DecidableEq, Inhabited

namespace Fault

/-- The wording of a fault. -/
def message : Fault → String
  | byteOrderMark => "Unexpected UTF-8 BOM (decode using utf-8-sig)"
  | value => "Expecting value"
  | key => "Expecting property name enclosed in double quotes"
  | colon => "Expecting ':' delimiter"
  | comma => "Expecting ',' delimiter"
  | extra => "Extra data"
  | unterminated => "Unterminated string starting at"
  | control => "Invalid control character at"
  | escape => "Invalid \\escape"
  | unicodeEscape => "Invalid \\uXXXX escape"
  | limit l => l.message

end Fault

/-- A fault with the characters from its place on. -/
structure FaultAt where
  /-- What is wrong. -/
  fault : Fault
  /-- The rest of the text from the place of the fault. -/
  rest : List Char
deriving Repr, DecidableEq, Inhabited

/-- The result of a reader: a value and what is left of the text. -/
abbrev Read (α : Type) := Except FaultAt (α × List Char)

namespace Reader

/-- The white space between tokens. -/
def isWhite (c : Char) : Bool := c == ' ' || c == '\t' || c == '\n' || c == '\r'

/-- The text after white space. -/
def skipWhite (cs : List Char) : List Char := cs.dropWhile isWhite

/-! ## Strings -/

/-- A character of a string literal, or half of a pair that is escaped in two halves. -/
inductive Piece where
  /-- A character. -/
  | char (c : Char)
  /-- An escaped code unit. -/
  | unit (n : Nat)
deriving Repr, DecidableEq

/-- The value of a hexadecimal digit. -/
def hexValue? (c : Char) : Option Nat :=
  if '0' ≤ c && c ≤ '9' then some (c.toNat - '0'.toNat)
  else if 'a' ≤ c && c ≤ 'f' then some (c.toNat - 'a'.toNat + 10)
  else if 'A' ≤ c && c ≤ 'F' then some (c.toNat - 'A'.toNat + 10)
  else none

/-- The value of hexadecimal digits. -/
def hexNumber? (cs : List Char) : Option Nat :=
  cs.foldlM (fun n c => (hexValue? c).map (16 * n + ·)) 0

/-- The character that a letter after a backslash stands for. -/
def simpleEscape? (c : Char) : Option Char :=
  if c == '"' || c == '\\' || c == '/' then some c
  else if c == 'b' then some '\x08'
  else if c == 'f' then some '\x0c'
  else if c == 'n' then some '\n'
  else if c == 'r' then some '\r'
  else if c == 't' then some '\t'
  else none

/-- Puts a piece in front of what was read after it. -/
def prepend (p : Piece) (r : Read (List Piece)) : Read (List Piece) :=
  r.map fun (ps, rest) => (p :: ps, rest)

/-- Reads a string literal after its opening quote; `start` is the text from that quote on. -/
def pieces (start : List Char) : List Char → Read (List Piece)
  | [] => .error ⟨.unterminated, start⟩
  | '\\' :: 'u' :: a :: b :: c :: d :: cs =>
    match hexNumber? [a, b, c, d], cs with
    | some n, _ :: _ => prepend (.unit n) (pieces start cs)
    | _, _ => .error ⟨.unicodeEscape, 'u' :: a :: b :: c :: d :: cs⟩
  | '\\' :: 'u' :: cs => .error ⟨.unicodeEscape, 'u' :: cs⟩
  | '\\' :: c :: cs =>
    match simpleEscape? c with
    | some e => prepend (.char e) (pieces start cs)
    | none => .error ⟨.escape, '\\' :: c :: cs⟩
  | '\\' :: [] => .error ⟨.unterminated, start⟩
  | c :: cs =>
    if c == '"' then .ok ([], cs)
    else if c.toNat < 0x20 then .error ⟨.control, c :: cs⟩
    else prepend (.char c) (pieces start cs)

/-- The first half of a pair. -/
def isHigh (n : Nat) : Bool := 0xd800 ≤ n && n < 0xdc00

/-- The second half of a pair. -/
def isLow (n : Nat) : Bool := 0xdc00 ≤ n && n < 0xe000

/-- The character of a code unit that belongs to no pair.  Half a pair becomes the replacement
character, so literals that differ only in such halves are read alike, and keys that differ only in
them are one key. -/
def unitChar (n : Nat) : Char := if isHigh n || isLow n then '\uFFFD' else Char.ofNat n

/-- Joins the halves of pairs. -/
def joinPieces : List Piece → List Char
  | [] => []
  | .unit a :: .unit b :: ps =>
    if isHigh a && isLow b then
      Char.ofNat (0x10000 + (a - 0xd800) * 0x400 + (b - 0xdc00)) :: joinPieces ps
    else unitChar a :: joinPieces (.unit b :: ps)
  | .unit a :: ps => unitChar a :: joinPieces ps
  | .char c :: ps => c :: joinPieces ps

/-- Reads a string literal after its opening quote; `start` is the text from that quote on. -/
def string (start cs : List Char) : Read String :=
  (pieces start cs).map fun (ps, rest) => (String.ofList (joinPieces ps), rest)

/-! ## Numbers -/

/-- The digits before the point: a zero alone, or digits that do not start with one. -/
def wholePart? (cs : List Char) : Option (List Char × List Char) :=
  match cs with
  | '0' :: rest => some (['0'], rest)
  | c :: _ =>
    if c.isDigit then some (cs.takeWhile Char.isDigit, cs.dropWhile Char.isDigit) else none
  | [] => none

/-- A point and the digits after it, if there are any. -/
def fraction? (cs : List Char) : Option (List Char × List Char) :=
  match cs with
  | '.' :: rest =>
    let digits := rest.takeWhile Char.isDigit
    if digits.isEmpty then none else some (digits, rest.dropWhile Char.isDigit)
  | _ => none

/-- An exponent, if it has digits. -/
def exponent? (cs : List Char) : Option (Int × List Char) :=
  match cs with
  | e :: rest =>
    if e == 'e' || e == 'E' then
      let (negative, rest) := match rest with
        | '-' :: rest => (true, rest)
        | '+' :: rest => (false, rest)
        | rest => (false, rest)
      let digits := rest.takeWhile Char.isDigit
      if digits.isEmpty then none
      else
        let n : Int := Text.digitsValue digits
        some (if negative then -n else n, rest.dropWhile Char.isDigit)
    else none
  | [] => none

/-- A whole number with the digits `whole`, read up to `rest`. -/
def wholeNumber (negative : Bool) (whole rest : List Char) : Read Value :=
  if Text.maxDigits < whole.length then .error ⟨.limit (.digits whole.length), whole ++ rest⟩
  else
    let n : Int := Text.digitsValue whole
    .ok (.int (if negative then -n else n), rest)

/-- A number with the digits `whole` before its point, read from there on.  What looks like a
fraction or an exponent but has no digits is left alone. -/
def numberAfter (negative : Bool) (whole rest : List Char) : Read Value :=
  let fraction := fraction? rest
  let (decimals, after) := fraction.getD ([], rest)
  match fraction, exponent? after with
  | none, none => wholeNumber negative whole rest
  | _, found =>
    let (e, after) := found.getD (0, after)
    let digits := Text.digitsValue (whole ++ decimals)
    .ok (.float (Decimal.Binary64.ofDecimal negative digits (e - decimals.length)), after)

/-- Reads a number, if one starts here. -/
def number? (cs : List Char) : Option (Read Value) :=
  let (negative, unsigned) := match cs with
    | '-' :: rest => (true, rest)
    | cs => (false, cs)
  (wholePart? unsigned).map fun (whole, rest) => numberAfter negative whole rest

/-- The words that stand for values. -/
def words : List (String × Value) :=
  [("null", .null), ("true", .bool true), ("false", .bool false), ("NaN", .float .nan),
   ("Infinity", .float (.inf false)), ("-Infinity", .float (.inf true))]

/-- Reads one of the words that stand for values. -/
def word? (cs : List Char) : Option (Value × List Char) :=
  words.findSome? fun (w, v) =>
    if w.toList.isPrefixOf cs then some (v, cs.drop w.length) else none

/-! ## Values -/

/-- Reads the items of a list after white space, up to its closing bracket. -/
def items (value : List Char → Read Value) : Nat → List Char → Read (List Value)
  | 0, cs => .error ⟨.value, cs⟩
  | n + 1, cs =>
    (value cs).bind fun (v, rest) =>
      match skipWhite rest with
      | ']' :: rest => .ok ([v], rest)
      | ',' :: rest =>
        (items value n (skipWhite rest)).map fun (vs, rest) => (v :: vs, rest)
      | rest => .error ⟨.comma, rest⟩

/-- Reads a key, its colon and its value. -/
def member (value : List Char → Read Value) (cs : List Char) : Read (String × Value) :=
  match cs with
  | '"' :: rest =>
    (string cs rest).bind fun (k, rest) =>
      match skipWhite rest with
      | ':' :: rest => (value (skipWhite rest)).map fun (v, rest) => ((k, v), rest)
      | rest => .error ⟨.colon, rest⟩
  | cs => .error ⟨.key, cs⟩

/-- Reads the fields of an object after white space, up to its closing brace, and adds them to
`fields`. -/
def members (value : List Char → Read Value) : Nat → Fields → List Char → Read Fields
  | 0, _, cs => .error ⟨.key, cs⟩
  | n + 1, fields, cs =>
    (member value cs).bind fun ((k, v), rest) =>
      let fields := Fields.put k v fields
      match skipWhite rest with
      | '}' :: rest => .ok (fields, rest)
      | ',' :: rest => members value n fields (skipWhite rest)
      | rest => .error ⟨.comma, rest⟩

/-- Reads a value that is neither a list nor an object. -/
def scalar (cs : List Char) : Read Value :=
  match cs with
  | '"' :: rest => (string cs rest).map fun (s, rest) => (.str s, rest)
  | cs =>
    match word? cs with
    | some r => .ok r
    | none => (number? cs).getD (.error ⟨.value, cs⟩)

/-- Reads a value nested at most `depth` levels deep. -/
def value : Nat → List Char → Read Value
  | 0, cs =>
    match cs with
    | '[' :: _ => .error ⟨.limit .listDepth, cs⟩
    | '{' :: _ => .error ⟨.limit .objectDepth, cs⟩
    | cs => scalar cs
  | depth + 1, cs =>
    match cs with
    | '[' :: rest =>
      match skipWhite rest with
      | ']' :: rest => .ok (.list [], rest)
      | rest => (items (value depth) rest.length.succ rest).map fun (vs, rest) => (.list vs, rest)
    | '{' :: rest =>
      match skipWhite rest with
      | '}' :: rest => .ok (.object [], rest)
      | rest =>
        (members (value depth) rest.length.succ [] rest).map fun (fs, rest) => (.object fs, rest)
    | cs => scalar cs

/-- Reads a whole text. -/
def document (cs : List Char) : Except FaultAt Value :=
  match cs with
  | '\uFEFF' :: _ => .error ⟨.byteOrderMark, cs⟩
  | cs =>
    (value Limit.maxDepth (skipWhite cs)).bind fun (v, rest) =>
      match skipWhite rest with
      | [] => .ok v
      | rest => .error ⟨.extra, rest⟩

end Reader

/-! ## Places -/

/-- A fault and where it is. -/
structure ReadError where
  /-- What is wrong. -/
  fault : Fault
  /-- The line, counted from 1. -/
  line : Nat
  /-- The column, counted from 1. -/
  column : Nat
  /-- The offset, counted from 0. -/
  offset : Nat
deriving Repr, DecidableEq, Inhabited

namespace ReadError

/-- The place of a fault in the text `cs`. -/
def locate (cs : List Char) (f : FaultAt) : ReadError :=
  let before := cs.take (cs.length - f.rest.length)
  { fault := f.fault
    line := before.count '\n' + 1
    column := (before.reverse.takeWhile (· != '\n')).length + 1
    offset := before.length }

/-- The wording of a fault with its place; a limit has no place. -/
def message (e : ReadError) : String :=
  match e.fault with
  | .limit l => l.message
  | fault =>
    fault.message ++ ": line " ++ toString e.line ++ " column " ++ toString e.column ++
      " (char " ++ toString e.offset ++ ")"

end ReadError

/-- Reads a JSON text. -/
def read (text : String) : Except ReadError Value :=
  (Reader.document text.toList).mapError (ReadError.locate text.toList)

end FenceLint.Json
