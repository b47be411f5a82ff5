import Formula.Double.Partial
import Formula.Value.Text

/-!
# Formula.Value.Convert

The four conversions of values, to doubles, integers, strings and truth values. Numbers convert to
each other and to strings; a truth value is never a number; a host object converts as it offers.
`supports` says whether a conversion is there at all; a conversion that is there can still fail.
-/

namespace Formula
namespace Value

/-- Whether the value is a native number. -/
def isNumber : Value → Bool
  | int _ => true
  | double _ => true
  | _ => false

def supports (wanted : Capability) (v : Value) : Bool :=
  match wanted, v with
  | .double, host object => object.double.isSome
  | .int, host object => object.int.isSome
  | .string, host object => object.string.isSome
  | .bool, host object => object.bool.isSome
  | .string, string _ => true
  | .bool, bool _ => true
  | .bool, _ => false
  | _, v => v.isNumber

def notConvertible (wanted : Capability) (v : Value) : Error :=
  .typeMismatch (.notConvertible wanted v.describe)

/-- A number that is too large is a mismatch. -/
def orTooLarge : Except Error Double → Except Error Double
  | .error .overflow => .error (.typeMismatch .tooLargeForDouble)
  | result => result

def doubleOfInt (n : Int) : Except Error Double := orTooLarge (Double.fromInt n)

def doubleOfNumber : Number → Except Error Double
  | .double x => .ok x
  | .int n => doubleOfInt n
  | .bool b => .ok (Double.ofInt (if b then 1 else 0))

def toDouble : Value → Except Error Double
  | double x => .ok x
  | int n => doubleOfInt n
  | host object =>
    match object.double with
    | some (.ok number) => doubleOfNumber number
    | some (.error e) => .error e
    | none => .error (notConvertible .double (host object))
  | v => .error (notConvertible .double v)

/-- A double converts to an integer only if it is one. -/
def toInt : Value → Except Error Int
  | double x => if x.isIntegral then x.truncate else .error (.typeMismatch .hasDecimals)
  | int n => .ok n
  | host object =>
    match object.int with
    | some result => result
    | none => .error (notConvertible .int (host object))
  | v => .error (notConvertible .int v)

def toText : Value → Except Error String
  | string s => .ok s
  | double x => .ok x.display
  | int n => .ok (Decimal.intText n)
  | host object =>
    match object.string with
    | some result => result
    | none => .error (notConvertible .string (host object))
  | v => .error (notConvertible .string v)

def toBool : Value → Except Error Bool
  | bool b => .ok b
  | host object =>
    match object.bool with
    | some result => result
    | none => .error (notConvertible .bool (host object))
  | v => .error (notConvertible .bool v)

end Value
end Formula
