import Formula.Cli.Assignment
import Formula.Cli.Request
import Formula.Cli.Table
import Formula.Engine

/-!
# Formula.Cli.Run

The commands of the command line: `eval` shows the value of an expression, `tokens` its tokens, and
`ast` how it is read. An error of the engine ends a command with code 1.
-/

namespace Formula
namespace Cli

/-- How a run ended: with output and a code, with a complaint about the command line, or with an
error that is none of the engine's. -/
inductive Outcome where
  | finished (code : Nat) (output errors : String)
  | usage (message : Option String)
  | failed (e : Error)

def version : String := "0.1.0"

def helpText : String :=
  "Usage: expreval [--version] [--verbose] [--help] COMMAND\n\n"
    ++ "  eval    Evaluate an expression and print the result.\n"
    ++ "  tokens  Show the token stream of an expression.\n"
    ++ "  ast     Show the parsed expression with explicit grouping.\n"

/-- A text as a line of output. -/
def outputLine (s : String) : String :=
  String.ofList (s.toList.filter isShown ++ ['\n'])

/-- The lines of the records that are shown: all with `verbose`, otherwise the warnings only, and
these without their logger. -/
def recordLines (verbose : Bool) (records : List LogRecord) : String :=
  let shown := if verbose then records.map LogRecord.line
    else (records.filter fun r => r.level = .warning).map LogRecord.message
  String.join (shown.map fun line => line ++ "\n")

/-- The end of a command: its output, or the error. -/
def finish (verbose : Bool) (records : List LogRecord) (result : Except Error String) : Outcome :=
  match result with
  | .ok output => .finished 0 output (recordLines verbose records)
  | .error e =>
    match e.kind? with
    | some kind =>
      .finished 1 ""
        (recordLines verbose records ++ "Error: " ++ kind.name ++ "\n" ++ outputLine e.render)
    | none => .failed e

/-- The engine's options: those of the environment, unless the command line allows trailing tokens
itself. -/
def optionsOf (lookup : String → Option String) (e : Evaluation) : Options × List LogRecord :=
  let (options, records) := Options.ofEnvironment lookup
  (if e.allowTrailing then { allowTrailingTokens := true } else options, records)

def runEvaluation (lookup : String → Option String) (verbose : Bool) (e : Evaluation) : Outcome :=
  match parseAssignments e.assignments with
  | .error item => .usage (some (malformedAssignment item))
  | .ok table =>
    let (options, warnings) := optionsOf lookup e
    let functions := if e.library then some (.source .library) else none
    let around : Surroundings := ⟨some table, functions, none⟩
    let report := Formula.evaluate options around.resolvers (.named e.target.name) e.expression
    finish verbose (warnings ++ report.records)
      (report.result.map fun v => outputLine v.display)

def runTask (lookup : String → Option String) (verbose : Bool) : Task → Outcome
  | .evaluate e => runEvaluation lookup verbose e
  | .tokens expression => finish verbose [] ((tokenize expression).map tokenTable)
  | .ast expression =>
    let logged := parseSource Options.default expression
    finish verbose logged.records (logged.result.map fun e => outputLine e.print)

/-- Runs a command line in an environment of variables. -/
def run (lookup : String → Option String) (args : List String) : Outcome :=
  match parseRequest args with
  | none => .usage none
  | some .version => .finished 0 (outputLine ("expreval " ++ version)) ""
  | some .help => .finished 0 helpText ""
  | some (.perform verbose task) => runTask lookup verbose task

end Cli
end Formula
