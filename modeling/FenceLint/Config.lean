import FenceLint.Json.Comments
import FenceLint.Json.Display
import FenceLint.Json.Reader

/-!
# Rule configurations

A configuration is a JSON object, written with comments and trailing commas if one likes: rule
names and their switches or options, in order.
-/

namespace FenceLint

/-- Rule names with their settings, in order. -/
abbrev Config := Json.Fields

/-- Why a configuration cannot be used. -/
inductive ConfigError where
  /-- The file that was asked for does not exist. -/
  | notFound (path : String)
  /-- The text is no JSON. -/
  | malformed (source : String) (error : Json.ReadError)
  /-- The text is JSON, but no object. -/
  | notObject (source : String) (value : Json.Value)
  /-- The text is beyond a limit of the reader. -/
  | beyond (limit : Json.Limit)
deriving Repr, Inhabited

/-- The wording of an error. -/
def ConfigError.message : ConfigError → String
  | notFound path => "Config file not found: " ++ path
  | malformed source e => "Invalid markdownlint config " ++ source ++ ": " ++ e.message
  | notObject source v =>
    "Invalid markdownlint config " ++ source ++ ": expected an object, got " ++ v.kind
  | beyond limit => limit.message

/-- Reads a configuration from its text; `source` names the text in errors. -/
def Config.parse (text : String) (source : String := "<string>") : Except ConfigError Config :=
  match Json.read (Json.Comments.strip text) with
  | .error e =>
    match e.fault with
    | .limit l => .error (.beyond l)
    | _ => .error (.malformed source e)
  | .ok (.object fields) => .ok fields
  | .ok v => .error (.notObject source v)

end FenceLint
