import Formula.Double.Arithmetic
import Formula.Error.Basic

/-!
# Formula.Double.Partial

Operations on doubles that are refused for some operands: division and remainder, conversions
between doubles and integers, and rounding to single precision.
-/

namespace Formula
namespace Double

def divide (x y : Double) : Except Error Double :=
  if y.isZero then .error .zeroDivision else .ok (x.div y)

/-- With NaN for an operand there is always a remainder; otherwise there is none of an infinite
dividend and none by zero. -/
def modulo : Double → Double → Except Error Double
  | .nan, _ => .ok .nan
  | _, .nan => .ok .nan
  | .infinite _, _ => .error .domain
  | x, y => if y.isZero then .error .domain else .ok (x.remainder y)

def inRange : Double → Except Error Double
  | .infinite _ => .error .overflow
  | x => .ok x

/-- The nearest double, unless that is infinite. -/
def fromInt (n : Int) : Except Error Double := (ofInt n).inRange

/-- The integer that `round` makes of the units of a finite double. -/
def toIntBy (round : Int → Int) : Double → Except Error Int
  | .finite s n _ => .ok (round (signed s n))
  | .infinite _ => .error .overflow
  | .nan => .error .nanToInteger

/-- The integer part. -/
def truncate : Double → Except Error Int :=
  toIntBy fun n => n.tdiv unitsPerOne

/-- The greatest integer not above. -/
def floorToInt : Double → Except Error Int :=
  toIntBy fun n => n / (unitsPerOne : Int)

/-- The least integer not below. -/
def ceilToInt : Double → Except Error Int :=
  toIntBy fun n => -(-n / (unitsPerOne : Int))

/-- The integer `whole`, or the next one if `x` is a half or more above `below`. -/
def stepFrom (whole : Int) (x below : Double) : Int :=
  if half.le (x.sub below) then whole + 1 else whole

/-- The nearest integer, a half going up. It is not the integer below `x + 0.5`, as that sum is
rounded. -/
def roundToInt (x : Double) : Except Error Int :=
  match x.floorToInt with
  | .error e => .error e
  | .ok whole => (fromInt whole).map (stepFrom whole x)

/-- The double of the integer that comes of a double. -/
def throughInt (toInt : Double → Except Error Int) (x : Double) : Except Error Double :=
  match toInt x with
  | .error e => .error e
  | .ok n => fromInt n

/-- The nearest single-precision value, unless that is infinite for a finite double. -/
def packSingle (x : Double) : Except Error Double :=
  if x.isFinite && x.toSingle.isInfinite then .error .overflow else .ok x.toSingle

end Double
end Formula
