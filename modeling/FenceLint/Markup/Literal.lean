import FenceLint.Text.Integer
import FenceLint.Text.Letter
import FenceLint.Text.Lines

/-!
# Literals

What a tag gives to its handler has to be made of literals: numbers, strings, a few constants, and
tuples, sets and dictionaries of them.  A text is cut into tokens, and the tokens are read as an
expression; only its shape matters.
-/

namespace FenceLint.Markup.Literal

/-! ## Tokens -/

/-- A token of an expression. -/
inductive Token where
  /-- A number, which may be imaginary. -/
  | number (imaginary : Bool)
  /-- A string, which may be one of bytes. -/
  | string (bytes : Bool)
  /-- A name. -/
  | name (s : String)
  /-- A mark. -/
  | mark (c : Char)
deriving Repr, DecidableEq

/-- Digits in which single underscores may stand, and what follows them. -/
def digitRun (isDigit : Char → Bool) : List Char → List Char × List Char
  | '_' :: d :: cs =>
    if isDigit d then
      let (digits, rest) := digitRun isDigit cs
      (d :: digits, rest)
    else ([], '_' :: d :: cs)
  | d :: cs =>
    if isDigit d then
      let (digits, rest) := digitRun isDigit cs
      (d :: digits, rest)
    else ([], d :: cs)
  | [] => ([], [])

/-- The digits of a base by its letter. -/
def baseDigits? (letter : Char) : Option (Char → Bool) :=
  match letter.toLower with
  | 'x' => some fun c => c.isDigit || ('a' ≤ c.toLower && c.toLower ≤ 'f')
  | 'o' => some fun c => '0' ≤ c && c ≤ '7'
  | 'b' => some fun c => c == '0' || c == '1'
  | _ => none

/-- What follows a digit run that has to have digits. -/
def someDigits? (isDigit : Char → Bool) (cs : List Char) : Option (List Char) :=
  let (digits, rest) := digitRun isDigit cs
  if digits.isEmpty then none else some rest

/-- What follows an exponent; an exponent without digits is none. -/
def afterExponent (cs : List Char) : List Char × Bool :=
  match cs with
  | e :: rest =>
    let unsigned := match rest with
      | '+' :: rest | '-' :: rest => rest
      | rest => rest
    if (e == 'e' || e == 'E') && (unsigned.head?.map Char.isDigit).getD false then
      ((someDigits? Char.isDigit unsigned).getD [], true)
    else (cs, false)
  | [] => (cs, false)

/-- What follows a decimal number, and whether it is imaginary.  A whole number has a bounded number
of digits and does not start with a zero unless it is zero. -/
def decimal? (cs : List Char) : Option (Bool × List Char) :=
  let (whole, rest) := match cs with
    | '_' :: _ => ([], cs)
    | cs => digitRun Char.isDigit cs
  let (fraction, pointed, rest) := match rest with
    | '.' :: '_' :: _ => ([], true, rest.tail)
    | '.' :: rest => ((digitRun Char.isDigit rest).1, true, (digitRun Char.isDigit rest).2)
    | rest => ([], false, rest)
  if whole.isEmpty && fraction.isEmpty then none
  else
    let (rest, scaled) := afterExponent rest
    let (imaginary, rest) := match rest with
      | 'j' :: rest | 'J' :: rest => (true, rest)
      | rest => (false, rest)
    let padded := whole.head? == some '0' && whole.any (· != '0')
    let isWhole := !pointed && !scaled && !imaginary
    if isWhole && (padded || Text.maxDigits < whole.length) then none else some (imaginary, rest)

/-- What follows a number, and whether it is imaginary.  No letter may touch it. -/
def number? (cs : List Char) : Option (Bool × List Char) :=
  let based := match cs with
    | '0' :: letter :: rest =>
      (baseDigits? letter).map fun isDigit =>
        (someDigits? isDigit rest).map fun rest => (false, rest)
    | _ => none
  (based.getD (decimal? cs)).filter fun (_, rest) => !(rest.head?.map Text.isLetter).getD false

/-- How many hexadecimal digits an escape needs after its letter. -/
def escapeDigits (bytes : Bool) (letter : Char) : Nat :=
  if letter == 'x' then 2
  else if bytes then 0
  else if letter == 'u' then 4
  else if letter == 'U' then 8
  else 0

/-- Hexadecimal digits. -/
def isHex (c : Char) : Bool := c.isDigit || ('a' ≤ c.toLower && c.toLower ≤ 'f')

/-- The digits of a long escape name a code point. -/
def isCodePoint (digits : List Char) : Bool :=
  digits.length < 8 || ['0', '0', '0'].isPrefixOf digits || ['0', '0', '1', '0'].isPrefixOf digits

/-- What follows a string after its opening quotes, which `close` repeats; `skip` characters belong
to an escape. -/
def afterString? (raw bytes : Bool) (close : List Char) : Nat → List Char → Option (List Char)
  | _, [] => none
  | skip + 1, _ :: cs => afterString? raw bytes close skip cs
  | 0, c :: cs =>
    if close.isPrefixOf (c :: cs) then some ((c :: cs).drop close.length)
    else if (c == '\n' && close.length == 1) || (bytes && 0x80 ≤ c.toNat) then none
    else if c == '\\' then
      match cs with
      | [] => none
      | e :: rest =>
        let n := if raw then 0 else escapeDigits bytes e
        let digits := rest.take n
        let named := !raw && !bytes && e == 'N'
        if digits.length == n && digits.all isHex && isCodePoint digits && !named then
          afterString? raw bytes close (1 + n) cs
        else none
    else afterString? raw bytes close 0 cs

/-- The opening quotes of a string: three, or one. -/
def openingQuotes (cs : List Char) : List Char :=
  match cs with
  | a :: b :: c :: _ => if a == b && b == c then [a, b, c] else [a]
  | cs => cs.take 1

/-- What follows a string with a prefix of letters. -/
def string? (letters : String) (cs : List Char) : Option (Bool × List Char) :=
  if ["", "r", "u", "b", "br", "rb"].contains letters then
    let raw := letters.toList.contains 'r'
    let bytes := letters.toList.contains 'b'
    let quotes := openingQuotes cs
    (afterString? raw bytes quotes 0 (cs.drop quotes.length)).map fun rest => (bytes, rest)
  else none

/-- A quote. -/
def isQuote (c : Char) : Bool := c == '\'' || c == '"'

/-- The next token and what follows it. -/
def token? (cs : List Char) : Option (Token × List Char) :=
  match cs with
  | [] => none
  | c :: rest =>
    let letters := cs.takeWhile Text.isLetter
    let after := cs.dropWhile Text.isLetter
    let quoted := (after.head?.map isQuote).getD false
    let pointed := c == '.' && (rest.head?.map Char.isDigit).getD false
    if c.isDigit || pointed then (number? cs).map fun (i, rest) => (.number i, rest)
    else if quoted then
      (string? ((String.ofList letters).map Char.toLower) after).map fun (b, rest) =>
        (.string b, rest)
    else if letters.isEmpty then some (.mark c, rest)
    else some (.name (String.ofList letters), after)

/-- How deep the brackets are after a token. -/
def depthAfter (depth : Nat) : Token → Nat
  | .mark c =>
    if c == '(' || c == '{' then depth + 1 else if c == ')' || c == '}' then depth - 1 else depth
  | _ => depth

/-- How deep brackets may be nested. -/
def maxDepth : Nat := 200

/-- White space within a line. -/
def isGap (c : Char) : Bool := c == ' ' || c == '\t' || c == '\x0c'

/-- All lines are empty or hold only a comment; `comment` tells that one has started. -/
def noTokens : Bool → List Char → Bool
  | _, [] => true
  | comment, c :: cs =>
    if c == '\n' then noTokens false cs
    else (comment || isGap c || c == '#') && noTokens (comment || c == '#') cs

/-- The tokens of a text that follow brackets of some depth, at most `n` characters or tokens of it.
Within brackets a line end is white space, and a backslash before it makes it so anywhere; after any
other line end no token stands. -/
def tokens? : Nat → Nat → List Char → Option (List Token)
  | _, _, [] => some []
  | 0, _, _ => none
  | n + 1, depth, c :: cs =>
    if isGap c then tokens? n depth cs
    else if c == '\n' then
      if depth == 0 then if noTokens false cs then some [] else none else tokens? n depth cs
    else if c == '#' then tokens? n depth (cs.dropWhile (· != '\n'))
    else if c == '\\' then
      match cs with
      | '\n' :: d :: cs => tokens? n depth (d :: cs)
      | _ => none
    else
      (token? (c :: cs)).bind fun (t, rest) =>
        let depth := depthAfter depth t
        if maxDepth < depth then none else (tokens? n depth rest).map (t :: ·)

/-- The text from the first line with a token on; at most `n` lines before it are dropped. -/
def dropBareLines : Nat → List Char → List Char
  | 0, cs => cs
  | n + 1, cs =>
    let rest := cs.dropWhile isGap
    if rest.head? == some '#' || rest.head? == some '\n' then
      dropBareLines n (rest.dropWhile (· != '\n')).tail
    else cs

/-- The tokens of an expression.  Its first line is not indented, and it holds no null character. -/
def expressionTokens? (cs : List Char) : Option (List Token) :=
  let lines := dropBareLines cs.length (Text.unifyNewlines cs)
  let indent := (lines.takeWhile isGap).getLast?
  if indent == some ' ' || indent == some '\t' || cs.contains '\x00' then none
  else tokens? lines.length.succ 0 lines

/-! ## Expressions -/

/-- The shape of an expression. -/
inductive Shape where
  /-- A number without a sign. -/
  | number (imaginary : Bool)
  /-- A number with a sign. -/
  | signed (imaginary : Bool)
  /-- Anything else; `key` tells whether it can be a key of a dictionary. -/
  | other (key : Bool)
deriving Repr, DecidableEq

/-- The expression can be a key of a dictionary or a member of a set. -/
def Shape.isKey : Shape → Bool
  | other key => key
  | _ => true

/-- A reader of an expression: its shape and the tokens after it. -/
abbrev Reader := List Token → Option (Shape × List Token)

/-- Expressions up to a closing mark, with commas between them: their shapes, whether nothing or a
comma stands before the mark, and the tokens after it.  At most `n` are read. -/
def list? (expr : Reader) (close : Char) :
    Nat → List Token → Option (List Shape × Bool × List Token)
  | 0, _ => none
  | n + 1, ts =>
    if ts.head? == some (.mark close) then some ([], true, ts.tail)
    else
      (expr ts).bind fun (s, rest) =>
        match rest with
        | .mark c :: rest =>
          if c == close then some ([s], false, rest)
          else if c == ',' then
            (list? expr close n rest).map fun (shapes, comma, rest) => (s :: shapes, comma, rest)
          else none
        | _ => none

/-- The entries of a dictionary up to its closing brace; at most `n` are read. -/
def entries? (expr : Reader) : Nat → List Token → Option (List Token)
  | 0, _ => none
  | n + 1, ts =>
    if ts.head? == some (.mark '}') then some ts.tail
    else
      (expr ts).bind fun (key, rest) =>
        match rest with
        | .mark ':' :: rest =>
          if key.isKey then
            (expr rest).bind fun (_, rest) =>
              match rest with
              | .mark ',' :: rest => entries? expr n rest
              | .mark '}' :: rest => some rest
              | _ => none
          else none
        | _ => none

/-- What stands in parentheses: a tuple, or one expression. -/
def tuple? (expr : Reader) (ts : List Token) : Option (Shape × List Token) :=
  (list? expr ')' ts.length.succ ts).map fun (shapes, comma, rest) =>
    match shapes, comma with
    | [s], false => (s, rest)
    | shapes, _ => (.other (shapes.all Shape.isKey), rest)

/-- What stands in braces: a set, or a dictionary, which may be empty.  What follows the first
expression tells them apart. -/
def braces? (expr : Reader) (ts : List Token) : Option (Shape × List Token) :=
  if ts.head? == some (.mark '}') then some (.other false, ts.tail)
  else
    (expr ts).bind fun (first, rest) =>
      if !first.isKey then none
      else
        match rest with
        | .mark ':' :: rest =>
          (expr rest).bind fun (_, rest) =>
            match rest with
            | .mark ',' :: rest => (entries? expr ts.length rest).map (.other false, ·)
            | .mark '}' :: rest => some (.other false, rest)
            | _ => none
        | .mark ',' :: rest =>
          (list? expr '}' ts.length rest).bind fun (shapes, _, rest) =>
            if shapes.all Shape.isKey then some (.other false, rest) else none
        | .mark '}' :: rest => some (.other false, rest)
        | _ => none

/-- Drops strings of one kind; none if a string of the other kind stands among them. -/
def afterStrings? (bytes : Bool) : List Token → Option (List Token)
  | .string b :: ts => if b == bytes then afterStrings? bytes ts else none
  | ts => some ts

/-- Reads an expression without an operator. -/
def atom? (expr : Reader) : Reader
  | .number i :: ts => some (.number i, ts)
  | .string b :: ts => (afterStrings? b ts).map fun ts => (.other true, ts)
  | .name s :: ts =>
    if ["True", "False", "None"].contains s then some (.other true, ts)
    else if s == "set" && ts.take 2 == [.mark '(', .mark ')'] then some (.other false, ts.drop 2)
    else none
  | .mark '.' :: .mark '.' :: .mark '.' :: ts => some (.other true, ts)
  | .mark '(' :: ts => tuple? expr ts
  | .mark '{' :: ts => braces? expr ts
  | _ => none

/-- The tokens after a sign. -/
def afterSign? : List Token → Option (List Token)
  | .mark c :: ts => if c == '+' || c == '-' then some ts else none
  | _ => none

/-- Reads an expression that may have a sign; only a number takes one. -/
def signed? (expr : Reader) (ts : List Token) : Option (Shape × List Token) :=
  match afterSign? ts with
  | none => atom? expr ts
  | some ts =>
    (atom? expr ts).bind fun (s, rest) =>
      match s with
      | .number i => some (.signed i, rest)
      | _ => none

/-- Reads an expression nested at most `n` levels deep.  A sum is the sum of a real and an imaginary
number, which has no sign of its own. -/
def expr? : Nat → Reader
  | 0, _ => none
  | n + 1, ts =>
    (signed? (expr? n) ts).bind fun (left, rest) =>
      match afterSign? rest with
      | none => some (left, rest)
      | some rest =>
        (atom? (expr? n) rest).bind fun (right, rest) =>
          if (left == .number false || left == .signed false) && right == .number true then
            some (.other true, rest)
          else none

/-- A text is made of literals, with commas between them if there are several. -/
def isLiteral (cs : List Char) : Bool :=
  match expressionTokens? cs with
  | none => false
  | some ts =>
    match list? (expr? ts.length.succ) ')' ts.length.succ (ts ++ [.mark ')']) with
    | some (_ :: _, _, []) => true
    | _ => false

/-- What a tag gives to its handler can be used: a name alone, a name with arguments in parentheses,
or a literal. -/
def isUsable (parameters : String) : Bool :=
  let cs := Text.trim parameters.toList
  let arguments := cs.dropWhile fun c => Text.isLetter c || c == '.'
  let called := arguments.head? == some '(' && 2 ≤ arguments.length &&
    arguments.getLast? == some ')' && !arguments.contains '\n'
  arguments.isEmpty || isLiteral (if called then arguments else cs)

end FenceLint.Markup.Literal
