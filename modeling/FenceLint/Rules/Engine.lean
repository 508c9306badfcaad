import FenceLint.Finding
import FenceLint.Trace

/-!
# Rule engines

An engine lints a text under a configuration.  The usual one applies the configuration to a
scanner of rules and hands it the text; a scanner does not take blank texts.
-/

namespace FenceLint

/-- Lints a text under a configuration. -/
abbrev Engine := String → Config → Traced (List Finding)

/-- Looks for violations in a text under settings, or gives the reason why it cannot. -/
abbrev Scanner := List Setting → String → Except String (List Violation)

namespace Setting

/-- The setting switches a rule that has no name. -/
def isBlank : Setting → Bool
  | .enable rule => Text.isBlankText rule
  | .disable rule => Text.isBlankText rule
  | _ => false

end Setting

namespace Rules

/-- Carries out a directive.  A rule without a name cannot be switched. -/
def follow : Directive → Traced Unit
  | .log level message => Traced.log level message
  | .set s => if s.isBlank then Traced.fail .blankRule else Traced.emit (.setting s)

/-- Applies a configuration. -/
def configure (config : Config) : Traced Unit := (directives config).forM follow

/-- The settings that a configuration makes, in order. -/
def settings (config : Config) : List Setting :=
  (directives config).filterMap fun
    | .set s => some s
    | .log _ _ => none

/-- The engine that works with a scanner. -/
def scanning (scanner : Scanner) : Engine := fun content config => do
  configure config
  Traced.emit (.scan content)
  if Text.isBlankText content then
    Traced.fail (.scan (Failure.emptyArgument "path_to_scan"))
  else
    match scanner (settings config) content with
    | .error reason => Traced.fail (.scan reason)
    | .ok violations => return violations.map Finding.ofViolation

end Rules

/-- Lints a text that comes from a fenced block. -/
def Engine.lintNested (engine : Engine) (config : Config) (content : String) :
    Traced (List Finding) :=
  engine content (Rules.nestedConfig config)

end FenceLint
