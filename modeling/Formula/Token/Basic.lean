import Formula.Decimal.Layout
import Formula.Operator
import Formula.Text.Quoted
import Formula.Token.Kind

/-!
# Formula.Token.Basic

Tokens: a lexeme, where it starts, and how it is written.
-/

namespace Formula

/-- What a token stands for. -/
inductive Lexeme where
  | number (x : Double)
  | string (s : String)
  | boolean (b : Bool)
  | identifier (name : String)
  | var (name : String)
  | operator (op : Operator)
  | lparen
  | rparen
  | comma
  | lbracket
  | rbracket
deriving DecidableEq

namespace Lexeme

def kind : Lexeme → TokenKind
  | number _ => .number
  | string _ => .string
  | boolean _ => .boolean
  | identifier _ => .identifier
  | var _ => .var
  | operator _ => .operator
  | lparen => .lparen
  | rparen => .rparen
  | comma => .comma
  | lbracket => .lbracket
  | rbracket => .rbracket

/-- Equality of lexemes, numbers by their value: the two zeros are the same, NaN is not. -/
def same : Lexeme → Lexeme → Bool
  | number x, number y => x.eq y
  | a, b => a = b

/-- The value of a lexeme as it is shown to a reader. -/
def display : Lexeme → String
  | number x => x.display
  | string s => s
  | boolean b => if b then "true" else "false"
  | identifier name => name
  | var name => name
  | operator op => op.spelling
  | lparen => "("
  | rparen => ")"
  | comma => ","
  | lbracket => "["
  | rbracket => "]"

/-- The value of a lexeme in the notation of messages. -/
def describe : Lexeme → String
  | number x => x.literal
  | boolean b => if b then "True" else "False"
  | operator op => "<Operator." ++ op.name ++ ": " ++ Text.quoted op.spelling ++ ">"
  | l => Text.quoted l.display

end Lexeme

structure Token where
  lexeme : Lexeme
  position : Nat
  text : String
deriving DecidableEq

namespace Token

def kind (t : Token) : TokenKind := t.lexeme.kind

/-- Tokens are the same if their lexemes are, wherever and however they are written. -/
def same (a b : Token) : Bool := a.lexeme.same b.lexeme

def describe (t : Token) : String :=
  "Token(" ++ t.kind.name ++ ", " ++ t.lexeme.describe ++ ", pos="
    ++ Decimal.natText t.position ++ ")"

end Token
end Formula
