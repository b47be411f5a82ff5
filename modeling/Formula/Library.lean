import Formula.Arguments
import Formula.Bindings
import Formula.Double.Elementary

/-!
# Formula.Library

The mathematical functions that come with the engine. They take doubles and give a double, also
where the function beneath refuses its arguments: NaN outside the domain, infinity out of range.
-/

namespace Formula

/-- A function by the number of its arguments. -/
inductive MathFunction where
  | unary (f : Double → Except Error Double)
  | binary (f : Double → Double → Except Error Double)
  /-- At least two arguments; the first is given apart. -/
  | variadic (f : Double → List Double → Except Error Double)

namespace Library

/-- A number in the place of a refusal. -/
def quiet : Except Error Double → Except Error Double
  | .error .domain => .ok .nan
  | .error .nanToInteger => .ok .nan
  | .error .overflow => .ok (.infinite false)
  | result => result

/-- Rounding of what is finite. -/
def rounding (f : Double → Except Error Double) (x : Double) : Except Error Double :=
  if x.isFinite then f x else .ok x

def roundHalfAway (x : Double) : Except Error Double :=
  match x.abs.throughInt Double.roundToInt with
  | .error e => .error e
  | .ok y => .ok (y.copySign x.isNegative)

def logarithm (x : Double) : Except Error Double :=
  if x.isZero then .ok (.infinite true) else x.log

def isOddInteger (x : Double) : Bool :=
  x.toInt?.any fun n => n % 2 = 1

/-- Beyond the range a negative base keeps its sign only under an odd exponent. -/
def power (x y : Double) : Except Error Double :=
  if x.isZero && y.lt .zero then .ok (.infinite (isOddInteger y && x.isNegative))
  else
    match x.pow y with
    | .error .overflow => .ok (.infinite (x.lt .zero && isOddInteger y))
    | result => result

def functions : Bindings MathFunction :=
  [("abs", .unary fun x => .ok x.abs),
    ("acos", .unary fun x => quiet x.acos),
    ("asin", .unary fun x => quiet x.asin),
    ("atan", .unary fun x => quiet x.atan),
    ("atan2", .binary fun x y => quiet (x.atan2 y)),
    ("ceil", .unary (rounding (Double.throughInt Double.ceilToInt))),
    ("cos", .unary fun x => quiet x.cos),
    ("floor", .unary (rounding (Double.throughInt Double.floorToInt))),
    ("log", .unary fun x => quiet (logarithm x)),
    ("max", .variadic fun x rest => .ok (x.maximum rest)),
    ("min", .variadic fun x rest => .ok (x.minimum rest)),
    ("pow", .binary fun x y => quiet (power x y)),
    ("round", .unary (rounding roundHalfAway)),
    ("sin", .unary fun x => quiet x.sin),
    ("sqrt", .unary fun x => quiet x.sqrt),
    ("tan", .unary fun x => quiet x.tan)]

def names : List String := functions.map Prod.fst

def arity : MathFunction → Arity
  | .unary _ => .exactly 1
  | .binary _ => .exactly 2
  | .variadic _ => .atLeast 2

/-- The number of arguments is checked first, then they are converted from left to right. -/
def apply (f : MathFunction) (args : List Value) : Except Error Double :=
  match Arguments.ensure (arity f) args with
  | .error e => .error e
  | .ok () =>
    match Arguments.doubles args with
    | .error e => .error e
    | .ok xs =>
      match f, xs with
      | .unary f, [x] => f x
      | .binary f, [x, y] => f x y
      | .variadic f, x :: rest => f x rest
      | f, _ => .error (.invalidArity (arity f))

def call (name : String) (args : List Value) : Except Error Value :=
  match functions.get? name with
  | none => .error (.functionNotFound name)
  | some f =>
    match apply f args with
    | .error e => .error e
    | .ok x => .ok (.double x)

end Library
end Formula
