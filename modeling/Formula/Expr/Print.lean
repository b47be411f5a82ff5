import Formula.Decimal.Layout
import Formula.Expr.Basic

/-!
# Formula.Expr.Print

Expressions as source text, every binary operation in parentheses.
-/

namespace Formula

def Literal.print : Literal → String
  | number x => x.display
  | string s => "'" ++ s ++ "'"
  | boolean b => if b then "true" else "false"

namespace Expr

mutual

def print : Expr → String
  | literal value => value.print
  | var name => name
  | index name i => name ++ "[" ++ print i ++ "]"
  | call function args => function ++ "(" ++ printAll args ++ ")"
  | unary op operand => op.spelling ++ print operand
  | binary left op right => "(" ++ print left ++ " " ++ op.spelling ++ " " ++ print right ++ ")"

def printAll : List Expr → String
  | [] => ""
  | [arg] => print arg
  | arg :: rest => print arg ++ ", " ++ printAll rest

end

end Expr
end Formula
