/-!
# Formula.Operator

The sixteen operators with their spellings and binding tiers, and the five comparisons. There is no
comparison for `!=`: it is the negation of `==`.
-/

namespace Formula

/-- Binding tiers, from the loosest to the tightest. -/
inductive Precedence where
  | logicalOr
  | logicalAnd
  | equality
  | comparison
  | bitwiseOr
  | bitwiseAnd
  | additive
  | multiplicative
  | unary
deriving DecidableEq, Repr

namespace Precedence

def all : List Precedence :=
  [logicalOr, logicalAnd, equality, comparison, bitwiseOr, bitwiseAnd, additive,
    multiplicative, unary]

def rank : Precedence → Nat
  | logicalOr => 1
  | logicalAnd => 2
  | equality => 3
  | comparison => 4
  | bitwiseOr => 5
  | bitwiseAnd => 6
  | additive => 7
  | multiplicative => 8
  | unary => 9

def name : Precedence → String
  | logicalOr => "LOGICAL_OR"
  | logicalAnd => "LOGICAL_AND"
  | equality => "EQUALITY"
  | comparison => "COMPARISON"
  | bitwiseOr => "BITWISE_OR"
  | bitwiseAnd => "BITWISE_AND"
  | additive => "ADDITIVE"
  | multiplicative => "MULTIPLICATIVE"
  | unary => "UNARY"

end Precedence

inductive Operator where
  | plus
  | minus
  | multiply
  | divide
  | modulo
  | equal
  | notEqual
  | or
  | and
  | bitwiseOr
  | bitwiseAnd
  | greater
  | greaterOrEqual
  | less
  | lessOrEqual
  | not
deriving DecidableEq, Repr

namespace Operator

def all : List Operator :=
  [plus, minus, multiply, divide, modulo, equal, notEqual, or, and, bitwiseOr, bitwiseAnd,
    greater, greaterOrEqual, less, lessOrEqual, not]

def spelling : Operator → String
  | plus => "+"
  | minus => "-"
  | multiply => "*"
  | divide => "/"
  | modulo => "%"
  | equal => "=="
  | notEqual => "!="
  | or => "||"
  | and => "&&"
  | bitwiseOr => "|"
  | bitwiseAnd => "&"
  | greater => ">"
  | greaterOrEqual => ">="
  | less => "<"
  | lessOrEqual => "<="
  | not => "!"

def name : Operator → String
  | plus => "PLUS"
  | minus => "MINUS"
  | multiply => "MULTIPLY"
  | divide => "DIVIDE"
  | modulo => "MODULO"
  | equal => "EQUAL"
  | notEqual => "NOT_EQUAL"
  | or => "OR"
  | and => "AND"
  | bitwiseOr => "BITWISE_OR"
  | bitwiseAnd => "BITWISE_AND"
  | greater => "GREATER_THAN"
  | greaterOrEqual => "GREATER_THAN_OR_EQUAL"
  | less => "LESS_THAN"
  | lessOrEqual => "LESS_THAN_OR_EQUAL"
  | not => "NOT"

def precedence : Operator → Precedence
  | or => .logicalOr
  | and => .logicalAnd
  | equal | notEqual => .equality
  | greater | greaterOrEqual | less | lessOrEqual => .comparison
  | bitwiseOr => .bitwiseOr
  | bitwiseAnd => .bitwiseAnd
  | plus | minus => .additive
  | multiply | divide | modulo => .multiplicative
  | not => .unary

/-- The truth value of the left operand with which `&&` or `||` is decided. -/
def decider? : Operator → Option Bool
  | and => some false
  | or => some true
  | _ => none

def ofSpelling? (s : String) : Option Operator :=
  all.find? fun op => op.spelling = s

theorem ofSpelling_spelling (op : Operator) : ofSpelling? op.spelling = some op := by
  cases op <;> rfl

end Operator

inductive Comparison where
  | equal
  | greater
  | greaterOrEqual
  | less
  | lessOrEqual
deriving DecidableEq, Repr

namespace Comparison

def all : List Comparison := [equal, greater, greaterOrEqual, less, lessOrEqual]

def operator : Comparison → Operator
  | equal => .equal
  | greater => .greater
  | greaterOrEqual => .greaterOrEqual
  | less => .less
  | lessOrEqual => .lessOrEqual

/-- The comparison that an operator asks for; `!=` asks for `==`. -/
def ofOperator? : Operator → Option Comparison
  | .equal => some equal
  | .greater => some greater
  | .greaterOrEqual => some greaterOrEqual
  | .less => some less
  | .lessOrEqual => some lessOrEqual
  | _ => none

def name (c : Comparison) : String := c.operator.name

def spelling (c : Comparison) : String := c.operator.spelling

/-- Whether the comparison holds between things that stand in the order `o`. -/
def admits : Comparison → Ordering → Bool
  | equal, o => o = .eq
  | greater, o => o = .gt
  | greaterOrEqual, o => o ≠ .lt
  | less, o => o = .lt
  | lessOrEqual, o => o ≠ .gt

end Comparison
end Formula
