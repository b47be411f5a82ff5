import Formula.Double.Basic
import Formula.Error.Basic

/-!
# Formula.Double.Elementary

Roots, powers, logarithms and trigonometric functions, taken from the machine's floating-point
unit through the bit patterns of the operands. A result that is NaN without a NaN among the operands
is refused, and so is one that is infinite though all operands are finite.
-/

namespace Formula
namespace Double

def toMachine (x : Double) : Float :=
  Float.ofBits (UInt64.ofNat x.toBits)

def ofMachine (x : Float) : Double :=
  ofBits x.toBits.toNat

def checked (operands : List Double) (result : Double) : Except Error Double :=
  if result.isNaN && !operands.any isNaN then .error .domain
  else if result.isInfinite && operands.all isFinite then .error .overflow
  else .ok result

def onMachine (f : Float → Float) (x : Double) : Except Error Double :=
  checked [x] (ofMachine (f x.toMachine))

def onMachine₂ (f : Float → Float → Float) (x y : Double) : Except Error Double :=
  checked [x, y] (ofMachine (f x.toMachine y.toMachine))

def sqrt : Double → Except Error Double := onMachine Float.sqrt

def sin : Double → Except Error Double := onMachine Float.sin

def cos : Double → Except Error Double := onMachine Float.cos

def tan : Double → Except Error Double := onMachine Float.tan

def asin : Double → Except Error Double := onMachine Float.asin

def acos : Double → Except Error Double := onMachine Float.acos

def atan : Double → Except Error Double := onMachine Float.atan

def log : Double → Except Error Double := onMachine Float.log

def pow : Double → Double → Except Error Double := onMachine₂ Float.pow

def atan2 : Double → Double → Except Error Double := onMachine₂ Float.atan2

end Double
end Formula
