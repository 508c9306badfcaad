import FenceLint.Config
import FenceLint.Text.Blank
import FenceLint.Text.Case

/-!
# Rule settings

A configuration is turned into settings of a rule engine: rules are switched on and off, and their
options set.  Inside fenced blocks two rules are always off, whatever the configuration says: a
fragment need not start with a heading, and its links need not lead anywhere.
-/

namespace FenceLint

/-- A setting of a rule engine. -/
inductive Setting where
  /-- Switches a rule on. -/
  | enable (rule : String)
  /-- Switches a rule off. -/
  | disable (rule : String)
  /-- Sets an option to a truth value. -/
  | boolean (name : String) (value : Bool)
  /-- Sets an option to a whole number. -/
  | integer (name : String) (value : Int)
  /-- Sets an option to a text. -/
  | text (name : String) (value : String)
deriving Repr, DecidableEq, Inhabited

/-- How grave a log message is. -/
inductive Level where
  /-- For those who look for a cause. -/
  | debug
  /-- Something was left out. -/
  | warning
  /-- The run stops. -/
  | error
deriving Repr, DecidableEq, Inhabited

/-- A step of applying a configuration. -/
inductive Directive where
  /-- Makes a setting. -/
  | set (setting : Setting)
  /-- Writes to the log. -/
  | log (level : Level) (message : String)
deriving Repr, DecidableEq, Inhabited

namespace Rules

/-- The known rules with their aliases. -/
def known : List (String × List String) :=
  [("md001", ["heading-increment", "header-increment"]),
   ("md002", ["first-heading-h1", "first-header-h1"]),
   ("md003", ["heading-style", "header-style"]),
   ("md004", ["ul-style"]),
   ("md005", ["list-indent"]),
   ("md006", ["ul-start-left"]),
   ("md007", ["ul-indent"]),
   ("md009", ["no-trailing-spaces"]),
   ("md010", ["no-hard-tabs"]),
   ("md011", ["no-reversed-links"]),
   ("md012", ["no-multiple-blanks"]),
   ("md013", ["line-length"]),
   ("md014", ["commands-show-output"]),
   ("md018", ["no-missing-space-atx"]),
   ("md019", ["no-multiple-space-atx"]),
   ("md020", ["no-missing-space-closed-atx"]),
   ("md021", ["no-multiple-space-closed-atx"]),
   ("md022", ["blanks-around-headings", "blanks-around-headers"]),
   ("md023", ["heading-start-left", "header-start-left"]),
   ("md024", ["no-duplicate-heading", "no-duplicate-header"]),
   ("md025", ["single-title", "single-h1"]),
   ("md026", ["no-trailing-punctuation"]),
   ("md027", ["no-multiple-space-blockquote"]),
   ("md028", ["no-blanks-blockquote"]),
   ("md029", ["ol-prefix"]),
   ("md030", ["list-marker-space"]),
   ("md031", ["blanks-around-fences"]),
   ("md032", ["blanks-around-lists"]),
   ("md033", ["no-inline-html"]),
   ("md034", ["no-bare-urls"]),
   ("md035", ["hr-style"]),
   ("md036", ["no-emphasis-as-heading", "no-emphasis-as-header"]),
   ("md037", ["no-space-in-emphasis"]),
   ("md038", ["no-space-in-code"]),
   ("md039", ["no-space-in-links"]),
   ("md040", ["fenced-code-language"]),
   ("md041", ["first-line-heading", "first-line-h1"]),
   ("md042", ["no-empty-links"]),
   ("md043", ["required-headings", "required-headers"]),
   ("md044", ["proper-names"]),
   ("md045", ["no-alt-text"]),
   ("md046", ["code-block-style"]),
   ("md047", ["single-trailing-newline"]),
   ("md048", ["code-fence-style"]),
   ("md049", ["emphasis-style"]),
   ("md050", ["strong-style"]),
   ("md051", ["link-fragments"]),
   ("md052", ["reference-links-images"]),
   ("md053", ["link-image-reference-definitions"]),
   ("md054", ["link-image-style"]),
   ("md055", ["table-pipe-style"]),
   ("md056", ["table-column-count"]),
   ("md058", ["blanks-around-tables"]),
   ("md059", ["descriptive-link-text"])]

/-- The rules that are off inside fenced blocks. -/
def suppressed : List String := ["MD041", "MD051"]

/-- The names of these rules, in lower case. -/
def suppressedNames : List String :=
  ["md041", "first-line-heading", "first-line-h1", "md051", "link-fragments"]

/-! ## Directives -/

/-- The key names no rule. -/
def isMetaKey (key : String) : Bool :=
  key.toList.head? == some '$' || key == "extends" || key == "default"

/-- The value switches its rule on. -/
def isOn : Json.Value → Bool
  | .bool true => true
  | .object _ => true
  | _ => false

/-- The names, in lower case, of the keys that switch a rule on. -/
def enabledNames (config : Config) : List String :=
  (config.filter fun field => isOn field.2).map fun field => Text.lower field.1

/-- Switches off every known rule that the configuration does not switch on. -/
def disableUnlisted (config : Config) : List Directive :=
  let enabled := enabledNames config
  (known.filter fun (rule, aliases) => !(rule :: aliases).any enabled.contains).map
    fun (rule, _) => .set (.disable rule)

/-- Sets an option of a rule; only truth values, whole numbers and texts can be set. -/
def optionDirective (rule option : String) (value : Json.Value) : Directive :=
  let name := "plugins." ++ rule ++ "." ++ option
  match value with
  | .bool b => .set (.boolean name b)
  | .int n => .set (.integer name n)
  | .str s => .set (.text name s)
  | v =>
    .log .warning ("Skipping option " ++ name ++ ": unsupported value " ++ Json.display v)

/-- What one key of a configuration asks for. -/
def keyDirectives (key : String) (value : Json.Value) : List Directive :=
  if isMetaKey key then [.log .debug ("Ignoring config key " ++ Text.quote key)]
  else
    let rule := Text.lower key
    match value with
    | .bool true => [.set (.enable rule)]
    | .bool false => [.set (.disable rule)]
    | .object options =>
      .set (.enable rule) :: options.map fun (option, v) => optionDirective rule option v
    | v =>
      [.log .warning ("Unsupported value for rule " ++ Text.quote key ++ ": " ++ Json.display v)]

/-- The configuration switches rules off by default. -/
def defaultsOff (config : Config) : Bool :=
  match config.get? "default" with
  | some (.bool false) => true
  | _ => false

/-- Everything that a configuration asks for, in order. -/
def directives (config : Config) : List Directive :=
  (if defaultsOff config then disableUnlisted config else []) ++
    config.flatMap fun (key, value) => keyDirectives key value

/-! ## Inside fenced blocks -/

/-- The configuration for fenced blocks: nothing is left of the suppressed rules but that they are
off. -/
def nestedConfig (config : Config) : Config :=
  (config.filter fun field => !suppressedNames.contains (Text.lower field.1)) ++
    suppressed.map fun rule => (rule, .bool false)

end Rules

end FenceLint
