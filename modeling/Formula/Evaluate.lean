import Formula.Expr.Basic
import Formula.Operation

/-!
# Formula.Evaluate

Evaluation of expressions. Operands are evaluated from left to right; `&&` and `||` leave out the
right one once the left one decides.
-/

namespace Formula

def Literal.value : Literal → Value
  | number x => .double x
  | string s => .string s
  | boolean b => .bool b

/-- The value of an operand of `&&` or `||`, as a truth value. -/
def Task.truth (side : Side) (op : Operator) (operand : Task Value) : Task Bool :=
  operand.andThen fun v => .ofResult (logicalOperand side op v)

namespace Expr

mutual

/-- The value of an expression in its surroundings. -/
def task (r : Resolvers) : Expr → Task Value
  | literal value => .pure value.value
  | var name => r.askVar name
  | index name i =>
    (r.askVar name).andThen fun array =>
      match array.sequence? with
      | none => .fail (.typeMismatch (.notArray name))
      | some items => (task r i).andThen fun place => .ofResult (elementAt items place)
  | call function args => (taskAll r args).andThen fun values => r.callFunction function values
  | unary op operand => (task r operand).andThen fun v => .ofResult (applyUnary op v)
  | binary left op right =>
    match op.decider? with
    | some decider =>
      ((task r left).truth .left op).andThen fun a =>
        if a = decider then .pure (.bool decider)
        else ((task r right).truth .right op).andThen fun b => .pure (.bool b)
    | none => (task r left).andThen fun a => (task r right).andThen fun b => applyBinary r op a b

def taskAll (r : Resolvers) : List Expr → Task (List Value)
  | [] => .pure []
  | arg :: rest =>
    (task r arg).andThen fun v => (taskAll r rest).andThen fun vs => .pure (v :: vs)

end

theorem task_logical (r : Resolvers) (left right : Expr) {op : Operator} {decider : Bool}
    (h : op.decider? = some decider) :
    task r (.binary left op right) =
      ((task r left).truth .left op).andThen fun a =>
        if a = decider then .pure (.bool decider)
        else ((task r right).truth .right op).andThen fun b => .pure (.bool b) := by
  simp only [task, h]

theorem task_binary (r : Resolvers) (left right : Expr) {op : Operator}
    (h : op.decider? = none) :
    task r (.binary left op right) =
      (task r left).andThen fun a => (task r right).andThen fun b => applyBinary r op a b := by
  simp only [task, h]

/-- The run of an expression with no queries before it. -/
def evaluate (r : Resolvers) (e : Expr) : Run Value := e.task r []

end Expr

/-- A value in the place of an expression is refused. -/
def refuseValue (v : Value) : Run Value :=
  ⟨[], .error (.invalidOperation (.notAnExpression v.classOf.name))⟩

end Formula
