import Formula.Bitwise
import Formula.Resolver
import Formula.Value.Convert
import Formula.Value.Order

/-!
# Formula.Operation

What the operators do to values. The left operand's conversion comes before the right one's, and
only a comparison may ask the surroundings.
-/

namespace Formula

/-- Numeric addition where both operands are numeric, otherwise concatenation. -/
def addValues (left right : Value) : Except Error Value :=
  if left.supports .double && right.supports .double then
    match left.toDouble with
    | .error e => .error e
    | .ok x =>
      match right.toDouble with
      | .error e => .error e
      | .ok y => .ok (.double (x.add y))
  else if left.supports .string && right.supports .string then
    match left.toText with
    | .error e => .error e
    | .ok s =>
      match right.toText with
      | .error e => .error e
      | .ok t => .ok (.string (s ++ t))
  else if left.classOf ≠ right.classOf then .error (.typeMismatch .incompatibleOperands)
  else .error (.typeMismatch .notAddable)

/-- A rule on the doubles of both operands. -/
def onDoubles (f : Double → Double → Except Error Double) (left right : Value) :
    Except Error Value :=
  match left.toDouble with
  | .error e => .error e
  | .ok x =>
    match right.toDouble with
    | .error e => .error e
    | .ok y =>
      match f x y with
      | .error e => .error e
      | .ok z => .ok (.double z)

/-- A rule on the integers of both operands. -/
def onInts (f : Int → Int → Int) (left right : Value) : Except Error Value :=
  match left.toInt with
  | .error e => .error e
  | .ok m =>
    match right.toInt with
    | .error e => .error e
    | .ok n => .ok (.int (f m n))

def divideDoubles (x y : Double) : Except Error Double :=
  if y.isZero then .error (.invalidOperation .divisionByZero) else x.divide y

/-- Only the divisor is checked, so an infinite dividend may be refused as outside the domain. -/
def remainderOfDoubles (x y : Double) : Except Error Double :=
  if y.isZero then .error (.invalidOperation .moduloByZero) else x.modulo y

/-- The built-in comparison of two values: numbers as doubles, strings, and truth values for
equality only. -/
def compareNatively? (c : Comparison) (left right : Value) : Option (Except Error Bool) :=
  if left.supports .double && right.supports .double then
    match left.toDouble with
    | .error e => some (.error e)
    | .ok x =>
      match right.toDouble with
      | .error e => some (.error e)
      | .ok y => some (Value.holds c (.double x) (.double y))
  else
    match left, right with
    | .string s, .string t => some (Value.holds c (.string s) (.string t))
    | .bool a, .bool b => if c = .equal then some (.ok (a == b)) else none
    | _, _ => none

/-- A comparison, asked of the surroundings where no built-in rule decides it. -/
def compareValues (r : Resolvers) (c : Comparison) (left right : Value) : Task Bool :=
  match compareNatively? c left right with
  | some result => .ofResult result
  | none => r.askComparison left right c

/-- A binary operation on the values of both operands. -/
def applyBinary (r : Resolvers) (op : Operator) (left right : Value) : Task Value :=
  match op with
  | .plus => .ofResult (addValues left right)
  | .minus => .ofResult (onDoubles (fun x y => .ok (x.sub y)) left right)
  | .multiply => .ofResult (onDoubles (fun x y => .ok (x.mul y)) left right)
  | .divide => .ofResult (onDoubles divideDoubles left right)
  | .modulo => .ofResult (onDoubles remainderOfDoubles left right)
  | .bitwiseAnd => .ofResult (onInts Bitwise.and left right)
  | .bitwiseOr => .ofResult (onInts Bitwise.or left right)
  | .notEqual => (compareValues r .equal left right).andThen fun b => .pure (.bool (!b))
  | op =>
    match Comparison.ofOperator? op with
    | some c => (compareValues r c left right).andThen fun b => .pure (.bool b)
    | none => .fail (.invalidOperation (.unsupportedBinary op))

def applyUnary (op : Operator) (operand : Value) : Except Error Value :=
  match op with
  | .not =>
    if operand.supports .bool then
      match operand.toBool with
      | .error e => .error e
      | .ok b => .ok (.bool (!b))
    else .error (.typeMismatch .negationNotBool)
  | op => .error (.invalidOperation (.unsupportedUnary op))

/-- The truth value of an operand of `&&` or `||`. -/
def logicalOperand (side : Side) (op : Operator) (operand : Value) : Except Error Bool :=
  if operand.supports .bool then operand.toBool
  else .error (.typeMismatch (.operandNotBool side op))

/-- The item of a sequence at an index that is counted from the first. Whether it is within the
bounds is asked of the sequence, unless the index is negative. -/
def Sequence.element (array : Sequence Value) (index : Int) : Except Error Value :=
  match index with
  | .negSucc _ => .error (.invalidOperation (.indexOutOfBounds index))
  | .ofNat n =>
    match array.length with
    | .error e => .error e
    | .ok length =>
      if n < length then array.item n else .error (.invalidOperation (.indexOutOfBounds n))

def elementAt (array : Sequence Value) (index : Value) : Except Error Value :=
  if index.supports .int then
    match index.toInt with
    | .error e => .error e
    | .ok n => array.element n
  else .error (.typeMismatch .indexNotInt)

end Formula
