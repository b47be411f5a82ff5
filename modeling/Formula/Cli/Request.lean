import Formula.Cli.Switches
import Formula.ResultType
import Formula.Text.Fold

/-!
# Formula.Cli.Request

What a command line asks for.
-/

namespace Formula
namespace Cli

structure Evaluation where
  expression : String
  assignments : List String
  library : Bool
  target : ResultType
  allowTrailing : Bool

inductive Task where
  | evaluate (e : Evaluation)
  | tokens (expression : String)
  | ast (expression : String)

inductive Request where
  | version
  | help
  | perform (verbose : Bool) (task : Task)

inductive MainSwitch where
  | version
  | help
  | verbose
deriving DecidableEq

def mainSwitches : List (Switch MainSwitch) :=
  [⟨"--version", none, .flag .version⟩,
    ⟨"--verbose", none, .flag .verbose⟩,
    ⟨"--help", none, .flag .help⟩]

inductive TaskSwitch where
  | help
  | assign (item : String)
  | library
  | target (name : String)
  | allowTrailing
deriving DecidableEq

def helpSwitch : Switch TaskSwitch := ⟨"--help", none, .flag .help⟩

def evaluateSwitches : List (Switch TaskSwitch) :=
  [⟨"--var", some 'v', .valued .assign⟩,
    ⟨"--library", some 'l', .flag .library⟩,
    ⟨"--as", some 't', .valued .target⟩,
    ⟨"--allow-trailing", none, .flag .allowTrailing⟩,
    helpSwitch]

def assignmentsOf (given : List TaskSwitch) : List String :=
  given.filterMap fun
    | .assign item => some item
    | _ => none

/-- The result type whose name is given last, in any case; `any` if none is given. -/
def targetOf? (given : List TaskSwitch) : Option ResultType :=
  let names := given.filterMap fun
    | .target name => some name
    | _ => none
  match names.getLast? with
  | none => some .any
  | some name => ResultType.all.find? fun t => Text.fold t.name = Text.fold name

/-- The request of a command with its options, which takes one operand. -/
def requestOf (verbose : Bool) (task : List TaskSwitch → String → Option Task)
    (sorted : Sorted TaskSwitch) : Option Request :=
  if sorted.given.contains .help then some .help
  else
    match sorted.operands with
    | [expression] => (task sorted.given expression).map (.perform verbose)
    | _ => none

def evaluationOf (given : List TaskSwitch) (expression : String) : Option Task :=
  match targetOf? given with
  | none => none
  | some target =>
    some (.evaluate
      { expression := expression
        assignments := assignmentsOf given
        library := given.contains .library
        target := target
        allowTrailing := given.contains .allowTrailing })

/-- The commands by their words. -/
inductive CommandWord where
  | eval
  | tokens
  | ast
deriving DecidableEq, Repr

def CommandWord.ofName? : String → Option CommandWord
  | "eval" => some eval
  | "tokens" => some tokens
  | "ast" => some ast
  | _ => none

/-- The request of a command and its arguments. -/
def parseTask (verbose : Bool) (command : CommandWord) (args : List String) : Option Request :=
  let sorted (switches : List (Switch TaskSwitch)) := sortArguments true switches args.length args
  match command with
  | .eval => (sorted evaluateSwitches).bind (requestOf verbose evaluationOf)
  | .tokens =>
    (sorted [helpSwitch]).bind (requestOf verbose fun _ expression => some (.tokens expression))
  | .ast =>
    (sorted [helpSwitch]).bind (requestOf verbose fun _ expression => some (.ast expression))

/-- The first of the options that answer at once, whatever stands beside them. -/
def immediate? (given : List MainSwitch) : Option Request :=
  given.findSome? fun
    | .version => some .version
    | .help => some .help
    | .verbose => none

/-- What stands where a command should is none, and may still be an option, kept from being read
as one by the two dashes before it. -/
def parseMisplaced (args : List String) : Option Request :=
  (sortArguments false mainSwitches args.length args).bind fun sorted => immediate? sorted.given

/-- The request of a command line; none if it is not well formed. -/
def parseRequest (args : List String) : Option Request :=
  match sortArguments false mainSwitches args.length args with
  | none => none
  | some ⟨given, operands⟩ =>
    match immediate? given, operands with
    | some request, _ => some request
    | none, [] => none
    | none, word :: rest =>
      match CommandWord.ofName? word with
      | some command => parseTask (given.contains .verbose) command rest
      | none => parseMisplaced (word :: rest)

end Cli
end Formula
