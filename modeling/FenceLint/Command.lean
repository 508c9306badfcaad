import FenceLint.Command.Options
import FenceLint.Report.Console
import FenceLint.Report.Json
import FenceLint.Run

/-!
# The command

What the program prints, logs and answers for its arguments.  It answers 0 if nothing was found, 1
if something was found or the run failed, and 2 if the arguments are not understood.
-/

namespace FenceLint.Command

/-- The version of the program. -/
def versionText : String := "0.1.0"

/-- What became of a command. -/
structure Outcome where
  /-- The answer to the system. -/
  exitCode : Nat
  /-- What was printed. -/
  stdout : String := ""
  /-- What was printed as an error, beside the log. -/
  stderr : Option String := none
  /-- What was logged, in order. -/
  logs : List (Level × String) := []
deriving Repr, DecidableEq, Inhabited

/-- The console of the program. -/
def console (color : Bool) : Markup.Console := { width := 80, color }

/-- A log message is shown: all of them if `verbose`, else warnings and errors. -/
def isShown (verbose : Bool) (level : Level) : Bool := verbose || level != .debug

/-- The log messages of a trace. -/
def logsOf (trace : List Event) : List (Level × String) :=
  trace.filterMap fun
    | .log level message => some (level, message)
    | _ => none

/-- What the console shows of a trace. -/
def progress (style : ReportStyle) (trace : List Event) : Markup.Printed :=
  Markup.Printed.join (trace.map fun
    | .discovered n => style.discovered n
    | .scanned file n => style.scanned file n
    | _ => {})

/-- What is printed for a run. -/
def output (o : CheckOptions) (run : Traced Report) : Markup.Printed :=
  match o.format with
  | .json =>
    match run.result with
    | .ok r => r.json
    | .error _ => {}
  | .console =>
    let style : ReportStyle := { console := console o.color }
    style.start ++ progress style run.trace ++
      match run.result with
      | .ok r => style.report r
      | .error _ => {}

/-- The report of a run that was printed, or what went wrong with either. -/
def reported (run : Traced Report) (printed : Markup.Printed) : Except Failure Report :=
  match run.result, printed.fault with
  | .ok _, some fault => .error (.markup fault)
  | result, _ => result

/-- The answer to the system for a run. -/
def exitCode (result : Except Failure Report) : Nat :=
  match result with
  | .ok r => if r.passed then 0 else 1
  | .error _ => 1

/-- What is logged for a run. -/
def logs (verbose : Bool) (trace : List Event) (result : Except Failure Report) :
    List (Level × String) :=
  let failure := match result with
    | .ok _ => []
    | .error e => [(Level.error, "Nested Markdown linting aborted: " ++ e.message)]
  (logsOf trace ++ failure).filter fun l => isShown verbose l.1

/-- Lints a directory of a tree. -/
def lint (t : Tree) (engine : Engine) (o : CheckOptions) : Outcome :=
  let run := FenceLint.run t (Path.parse o.root) (o.config.map Path.parse) o.patterns engine o.limit
  let printed := output o run
  let result := reported run printed
  { exitCode := exitCode result
    stdout := printed.text
    logs := logs o.verbose run.trace result }

/-- Complains that a path is no directory.  The path is not escaped, and if it is no markup text
nothing is printed. -/
def notDirectory (root : String) : Outcome :=
  let printed := (console true).print ("[red]Error:[/red] Path is not a directory: " ++ root)
  { exitCode := 1, stderr := if printed.fault.isSome then none else some printed.text }

/-- Lints a directory of a tree, if it is one. -/
def check (t : Tree) (engine : Engine) (o : CheckOptions) : Outcome :=
  match t.node? (Path.parse o.root) with
  | .ok (some .directory) => lint t engine o
  | .ok _ => notDirectory o.root
  | .error _ => { exitCode := 1 }

/-- Carries out the command that arguments stand for. -/
def execute (t : Tree) (engine : Engine) (args : List String) : Outcome :=
  match parse? args with
  | none => { exitCode := 2 }
  | some .version =>
    { exitCode := 0
      stdout := ((console true).print ("[bold]nested-mdlint[/bold] v" ++ versionText)).text }
  | some (.check o) => check t engine o

end FenceLint.Command
