import Formula.Decimal.Basic
import Formula.Operator
import Formula.Text.Quoted
import Formula.Token.Kind

/-!
# Formula.Error.Cause

Why something is refused, with the wording of each cause: faults of the source text, values that do
not fit their use, and operations that cannot be done. A cause carries values only as text.
-/

namespace Formula

/-- Why a source text or a list of tokens is not an expression. -/
inductive SyntaxFault where
  | unexpectedCharacter (c : Char)
  | unterminatedString
  | variableStart
  | variableEnd
  | invalidNumber (text : String)
  | emptyExpression
  | unexpectedToken (text : String)
  | unexpectedIdentifier (name : String)
  | expected (kind : TokenKind) (text : String)
  | unseparatedArguments (function : String)
  | trailingToken (text : String)
deriving DecidableEq

def SyntaxFault.message : SyntaxFault → String
  | unexpectedCharacter c => "Unexpected character: " ++ Text.quoted (String.singleton c)
  | unterminatedString => "Unterminated string literal"
  | variableStart => "Invalid variable name: must start with a letter, a number, or '_'"
  | variableEnd => "Invalid variable name: '.' cannot be at the beginning or end"
  | invalidNumber text => "Invalid number: " ++ text
  | emptyExpression => "Empty expression"
  | unexpectedToken text => "Unexpected token: " ++ Text.quoted text
  | unexpectedIdentifier name => "Unexpected identifier: " ++ name
  | expected kind text => "Expected " ++ kind.name ++ ", got " ++ Text.quoted text
  | unseparatedArguments function => "Expected ',' or ')' in call to " ++ function
  | trailingToken text => "Unexpected token after expression: " ++ Text.quoted text

/-- What a value can be converted to. -/
inductive Capability where
  | double
  | int
  | string
  | bool
deriving DecidableEq, Repr

inductive Side where
  | left
  | right
deriving DecidableEq, Repr

def Side.name : Side → String
  | left => "Left"
  | right => "Right"

/-- Why a value does not fit its use; values appear as text. -/
inductive Mismatch where
  | notConvertible (wanted : Capability) (shown : String)
  | tooLargeForDouble
  | hasDecimals
  | notArray (name : String)
  | indexNotInt
  | negationNotBool
  | operandNotBool (side : Side) (op : Operator)
  | incompatibleOperands
  | notAddable
  | argumentIndex (index : Int)
  | argumentNotConvertible (wanted : Capability)
  | argumentClass (expected : String)
  | outOfRange (n : Int) (type : String)
  | result (expected actual : String)
deriving DecidableEq

def Capability.adjective : Capability → String
  | double => "numeric"
  | int => "integer"
  | string => "string"
  | bool => "boolean"

def Capability.name : Capability → String
  | double => "double"
  | int => "int"
  | string => "string"
  | bool => "boolean"

def Mismatch.message : Mismatch → String
  | notConvertible wanted shown => "Non " ++ wanted.adjective ++ " value: " ++ shown
  | tooLargeForDouble => "Integer value is too large for a double"
  | hasDecimals => "Double value has decimals"
  | notArray name => name ++ " is not an array"
  | indexNotInt => "Array index must be Int"
  | negationNotBool => "Operand must be Bool for NOT operator"
  | operandNotBool side op => side.name ++ " operand of " ++ op.spelling ++ " must be Bool"
  | incompatibleOperands => "Incompatible operands for concatenation"
  | notAddable => "Operands must be numeric or string"
  | argumentIndex index => "Invalid argument index: " ++ Decimal.intText index
  | argumentNotConvertible wanted => "Expected " ++ wanted.name ++ " convertible argument"
  | argumentClass expected => "Expected argument of type " ++ expected
  | outOfRange n type => "Value " ++ Decimal.intText n ++ " does not fit in " ++ type
  | result expected actual => "Expected return type " ++ expected ++ " instead of " ++ actual

/-- Why an operation on well-typed operands cannot be done. -/
inductive Misuse where
  | divisionByZero
  | moduloByZero
  | indexOutOfBounds (index : Int)
  | unsupportedUnary (op : Operator)
  | unsupportedBinary (op : Operator)
  | incomparable (left right : String)
  | notAnExpression (type : String)
deriving DecidableEq

def Misuse.message : Misuse → String
  | divisionByZero => "Division by zero"
  | moduloByZero => "Modulo by zero"
  | indexOutOfBounds index => "Index " ++ Decimal.intText index ++ " out of bounds"
  | unsupportedUnary op => "Unsupported unary operator: " ++ op.spelling
  | unsupportedBinary op => "Unsupported operator: " ++ op.spelling
  | incomparable left right => "Comparison impossible for type " ++ left ++ " and " ++ right
  | notAnExpression type => "Unknown expression type: " ++ type

end Formula
