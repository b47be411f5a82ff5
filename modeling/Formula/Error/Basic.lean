import Formula.Arity
import Formula.Error.Cause
import Formula.Location

/-!
# Formula.Error.Basic

The errors of the engine, in eight kinds, and those that are none of its own: failures of the host,
requests that make no sense, and the refusals of operations on numbers and lists, which the engine
keeps from its callers by checking operands first or by turning the refusal into a result.
-/

namespace Formula

/-- The kinds of the engine's errors; `expression` is the kind of none that the engine makes. -/
inductive ErrorKind where
  | expression
  | parse
  | missingOperand
  | variableNotFound
  | functionNotFound
  | typeMismatch
  | invalidOperation
  | invalidArity
deriving DecidableEq, Repr

def ErrorKind.name : ErrorKind → String
  | expression => "ExpressionError"
  | parse => "ParseError"
  | missingOperand => "MissingOperandError"
  | variableNotFound => "VariableNotFoundError"
  | functionNotFound => "FunctionNotFoundError"
  | typeMismatch => "TypeMismatchError"
  | invalidOperation => "InvalidOperationError"
  | invalidArity => "InvalidArityError"

def ErrorKind.all : List ErrorKind :=
  [expression, parse, missingOperand, variableNotFound, functionNotFound, typeMismatch,
    invalidOperation, invalidArity]

inductive Error where
  | parse (fault : SyntaxFault) (location : Option Location)
  | missingOperand
  | variableNotFound (name : String)
  | functionNotFound (name : String)
  | typeMismatch (cause : Mismatch)
  | invalidOperation (cause : Misuse)
  | invalidArity (expected : Arity)
  /-- An error of one of the engine's kinds that a host states in its own words. -/
  | stated (kind : ErrorKind) (message : String) (location : Option Location)
  /-- A failure of the host that is none of the engine's kinds. -/
  | hostFailure (message : String)
  /-- An argument outside the domain of a mathematical function. -/
  | domain
  | zeroDivision
  /-- A number beyond the range of what it was to become. -/
  | overflow
  /-- NaN where an integer was to come of it. -/
  | nanToInteger
  /-- An index beyond the ends of a list. -/
  | noElement
  | unknownResultType (name : String)
  /-- An order was asked of values that have none. -/
  | unordered
  /-- A bound on the number of arguments that is no arity. -/
  | malformedArity (fault : ArityFault)
deriving DecidableEq

namespace Error

/-- The engine's kind of an error; none for the errors that it lets through. -/
def kind? : Error → Option ErrorKind
  | parse _ _ => some .parse
  | missingOperand => some .missingOperand
  | variableNotFound _ => some .variableNotFound
  | functionNotFound _ => some .functionNotFound
  | typeMismatch _ => some .typeMismatch
  | invalidOperation _ => some .invalidOperation
  | invalidArity _ => some .invalidArity
  | stated kind _ _ => some kind
  | hostFailure _ | domain | zeroDivision | overflow | nanToInteger | noElement
  | unknownResultType _ | unordered | malformedArity _ => none

def message : Error → String
  | parse fault _ => fault.message
  | missingOperand => "Unexpected end of expression"
  | variableNotFound name => name
  | functionNotFound name => name
  | typeMismatch cause => cause.message
  | invalidOperation cause => cause.message
  | invalidArity expected => "Invalid number of arguments: expected " ++ expected.describe
  | stated _ message _ => message
  | hostFailure message => message
  | domain => "math domain error"
  | zeroDivision => "float division by zero"
  | overflow => "number out of range"
  | nanToInteger => "cannot convert float NaN to integer"
  | noElement => "list index out of range"
  | unknownResultType name => Text.quoted name ++ " is not a valid ResultType"
  | unordered => "values without an order"
  | malformedArity (.unknownKind kind) => Text.quoted kind ++ " is not a valid ArityKind"
  | malformedArity .negativeCount => "Input should be greater than or equal to 0"

def location? : Error → Option Location
  | parse _ location => location
  | stated _ _ location => location
  | _ => none

/-- The message, after the place it is about if that is known. -/
def render (e : Error) : String :=
  match e.location? with
  | some l => l.render ++ "\n" ++ e.message
  | none => e.message

/-- Two errors of the engine's kinds are the same if kind and message are; where they happened
does not count. -/
def same (a b : Error) : Bool :=
  match a.kind?, b.kind? with
  | some k, some l => k = l && a.message = b.message
  | _, _ => false

/-- How many different errors a list holds. -/
def distinct : List Error → Nat
  | [] => 0
  | e :: rest => (if rest.any e.same then 0 else 1) + distinct rest

/-- The kind and the quoted message. -/
def describe (e : Error) : String :=
  let name := match e.kind? with
    | some kind => kind.name
    | none => "HostFailure"
  name ++ "(" ++ Text.quoted e.message ++ ")"

/-- Whether the error says that there is no function `name`. -/
def isMissing (name : String) (e : Error) : Bool :=
  match e.kind? with
  | some .functionNotFound => e.message = name
  | _ => false

end Error
end Formula
