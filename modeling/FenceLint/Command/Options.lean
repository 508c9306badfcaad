import FenceLint.Text.Integer

/-!
# Command line arguments

Options have a long name, and some a short one of a single letter.  An option with a value takes
it from behind an equals sign after its long name, from the rest of the argument after its short
name, or else from the next argument, whatever that looks like.  Short options can be written
together.  Two dashes end the options.
-/

namespace FenceLint.Command

/-- The options of a command. -/
inductive Opt where
  /-- The configuration file. -/
  | config
  /-- An include pattern; may be repeated. -/
  | pattern
  /-- The greatest depth of a block. -/
  | maxDepth
  /-- The form of the output. -/
  | format
  /-- No colours. -/
  | noColor
  /-- More log messages. -/
  | verbose
deriving Repr, DecidableEq, Inhabited

namespace Opt

/-- The option takes a value. -/
def takesValue : Opt → Bool
  | noColor | verbose => false
  | _ => true

/-- The options of the check by their long names. -/
def long : List (String × Opt) :=
  [("--config", .config), ("--pattern", .pattern), ("--max-depth", .maxDepth),
   ("--format", .format), ("--no-color", .noColor), ("--verbose", .verbose)]

/-- The options of the check by their short names. -/
def short : List (Char × Opt) :=
  [('c', .config), ('p', .pattern), ('f', .format), ('v', .verbose)]

end Opt

/-- An argument after parsing. -/
inductive Arg where
  /-- An option with its value, which is empty for an option without one. -/
  | option (o : Opt) (value : String)
  /-- Anything else. -/
  | positional (s : String)
deriving Repr, DecidableEq

/-- Short options written together, after their dash: the options, and one that still needs its
value from the next argument. -/
def shortOptions? (table : List (Char × Opt)) : List Char → Option (List Arg × Option Opt)
  | [] => some ([], none)
  | c :: cs =>
    match table.lookup c with
    | none => none
    | some o =>
      if o.takesValue then
        if cs.isEmpty then some ([], some o) else some ([.option o (String.ofList cs)], none)
      else (shortOptions? table cs).map fun (args, pending) => (.option o "" :: args, pending)

/-- An argument that starts with a dash and has more: the options in it, and one that still needs
its value. -/
def optionArgument? (isCheck : Bool) (arg : List Char) : Option (List Arg × Option Opt) :=
  let name := String.ofList (arg.takeWhile (· != '='))
  let value := (arg.dropWhile (· != '=')).tail
  let hasValue := arg.contains '='
  match if isCheck then Opt.long.lookup name else none with
  | some o =>
    if o.takesValue then
      if hasValue then some ([.option o (String.ofList value)], none) else some ([], some o)
    else if hasValue then none
    else some ([.option o ""], none)
  | none =>
    if ['-', '-'].isPrefixOf arg then none
    else shortOptions? (if isCheck then Opt.short else []) arg.tail

/-- Reads arguments; none on a usage error.  `pending` is an option that takes the next argument
as its value. -/
def readArgs? (isCheck : Bool) : Option Opt → List String → Option (List Arg)
  | none, [] => some []
  | some _, [] => none
  | some o, value :: rest => (readArgs? isCheck none rest).map (.option o value :: ·)
  | none, arg :: rest =>
    if arg == "--" then some (rest.map .positional)
    else if arg.toList.head? == some '-' && 1 < arg.length then
      (optionArgument? isCheck arg.toList).bind fun (args, pending) =>
        (readArgs? isCheck pending rest).map (args ++ ·)
    else (readArgs? isCheck none rest).map (.positional arg :: ·)

/-- The form of the output. -/
inductive Format where
  /-- For a console. -/
  | console
  /-- A JSON document. -/
  | json
deriving Repr, DecidableEq, Inhabited

/-- A form of the output by its name. -/
def Format.ofName? (name : String) : Option Format :=
  if name == "rich" then some .console else if name == "json" then some .json else none

/-- What to check and how. -/
structure CheckOptions where
  /-- The directory to check. -/
  root : String := "."
  /-- The configuration file. -/
  config : Option String := none
  /-- The include patterns. -/
  patterns : List String := []
  /-- The greatest depth of a block. -/
  limit : Option Int := none
  /-- The form of the output. -/
  format : Format := .console
  /-- Whether colours are used. -/
  color : Bool := true
  /-- Whether all log messages are shown. -/
  verbose : Bool := false
deriving Repr, DecidableEq, Inhabited

namespace CheckOptions

/-- The options with what an option says; none if its value is not allowed. -/
def set? (c : CheckOptions) : Opt → String → Option CheckOptions
  | .config, v => some { c with config := some v }
  | .pattern, v => some { c with patterns := c.patterns ++ [v] }
  | .maxDepth, v =>
    ((Text.integer? v).filter (0 ≤ ·)).map fun n => { c with limit := some n }
  | .format, v => (Format.ofName? v).map fun f => { c with format := f }
  | .noColor, _ => some { c with color := false }
  | .verbose, _ => some { c with verbose := true }

/-- The last value of each option, except that patterns add up. -/
def lastValues (args : List Arg) : List (Opt × String) :=
  let options := args.filterMap fun
    | .option o v => some (o, v)
    | .positional _ => none
  options.zipIdx.filterMap fun ((o, v), i) =>
    if o != .pattern && (options.drop (i + 1)).any (·.1 == o) then none else some (o, v)

/-- The options that arguments stand for; none on a usage error. -/
def ofArgs? (args : List Arg) : Option CheckOptions :=
  let positionals := args.filterMap fun
    | .positional s => some s
    | .option _ _ => none
  if 1 < positionals.length then none
  else
    (lastValues args).foldlM (fun c (o, v) => c.set? o v)
      { root := positionals.head?.getD "." }

end CheckOptions

/-- A command. -/
inductive Request where
  /-- Shows the version. -/
  | version
  /-- Lints a directory. -/
  | check (options : CheckOptions)
deriving Repr, DecidableEq, Inhabited

/-- The command that arguments stand for; none on a usage error. -/
def parse? (args : List String) : Option Request :=
  let args := if args.head? == some "--" then args.tail else args
  match args with
  | [] => none
  | name :: rest =>
    if name == "check" then
      ((readArgs? true none rest).bind CheckOptions.ofArgs?).map .check
    else if name == "version" then
      (readArgs? false none rest).bind fun args => if args.isEmpty then some .version else none
    else none

end FenceLint.Command
