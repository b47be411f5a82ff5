/-!
# Formula.Token.Kind

The eleven kinds of tokens.
-/

namespace Formula

inductive TokenKind where
  | number
  | string
  | boolean
  | identifier
  | var
  | operator
  | lparen
  | rparen
  | comma
  | lbracket
  | rbracket
deriving DecidableEq, Repr

namespace TokenKind

def all : List TokenKind :=
  [number, string, boolean, identifier, var, operator, lparen, rparen, comma, lbracket,
    rbracket]

def name : TokenKind → String
  | number => "number"
  | string => "string"
  | boolean => "boolean"
  | identifier => "identifier"
  | var => "variable"
  | operator => "operator"
  | lparen => "lparen"
  | rparen => "rparen"
  | comma => "comma"
  | lbracket => "lbracket"
  | rbracket => "rbracket"

/-- Whether a token of this kind can end an operand, so that a minus after it subtracts. -/
def endsOperand : TokenKind → Bool
  | number | string | boolean | var | rparen | rbracket => true
  | _ => false

end TokenKind
end Formula
