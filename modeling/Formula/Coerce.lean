import Formula.ResultType
import Formula.Value.Convert

/-!
# Formula.Coerce

Conversion of a result to the type that the caller asked for. A value that has the type already is
left alone; of a class that stands for no result type only the test is made, which may fail.
-/

namespace Formula

def resultMismatch (expected : String) (v : Value) : Error :=
  .typeMismatch (.result expected v.classOf.name)

/-- The value as an integer of a type, if it converts and lies in the range. -/
def coerceToInteger (t : IntegerType) (v : Value) : Except Error Value :=
  if v.supports .int then
    match v.toInt with
    | .error e => .error e
    | .ok n =>
      if t.contains n then .ok (.int n) else .error (.typeMismatch (.outOfRange n t.name))
  else .error (resultMismatch t.name v)

/-- The nearest single-precision value, infinite beyond that range. -/
def roundToSingle (x : Double) : Except Error Double :=
  match x.packSingle with
  | .error .overflow => .ok (.infinite x.isNegative)
  | result => result

def coerceToDouble (t : ResultType) (v : Value) : Except Error Value :=
  if v.supports .double then
    match v.toDouble with
    | .error e => .error e
    | .ok x =>
      match if t = .float32 then roundToSingle x else .ok x with
      | .error e => .error e
      | .ok y => .ok (.double y)
  else .error (resultMismatch t.name v)

/-- The value converted to a type, whether it has that type already or not. -/
def convertToType (t : ResultType) (v : Value) : Except Error Value :=
  match t with
  | .any => .ok v
  | .integer type => coerceToInteger type v
  | .float => coerceToDouble .float v
  | .float32 => coerceToDouble .float32 v
  | .float64 => coerceToDouble .float64 v
  | .bool =>
    if v.supports .bool then
      match v.toBool with
      | .error e => .error e
      | .ok b => .ok (.bool b)
    else .error (resultMismatch t.name v)
  | .string =>
    if v.supports .string then
      match v.toText with
      | .error e => .error e
      | .ok s => .ok (.string s)
    else .error (resultMismatch t.name v)

def coerceToType (t : ResultType) (v : Value) : Except Error Value :=
  if ResultType.ofValue? v = some t then .ok v else convertToType t v

def coerce (target : Target) (v : Value) : Except Error Value :=
  match target with
  | .named name =>
    match ResultType.ofName? name with
    | some t => coerceToType t v
    | none => .error (.unknownResultType name)
  | .ofClass test =>
    match Target.typeOfClass? test with
    | some t => coerceToType t v
    | none =>
      match test.admits v with
      | .error e => .error e
      | .ok true => .ok v
      | .ok false => .error (resultMismatch test.name v)

end Formula
