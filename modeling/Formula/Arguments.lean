import Formula.Value.Convert

/-!
# Formula.Arguments

Access to the arguments of a call, with checks of their number, conversions, and tests of class.
-/

namespace Formula
namespace Arguments

def ensure (arity : Arity) (args : List Value) : Except Error Unit :=
  if arity.admits args.length then .ok () else .error (.invalidArity arity)

/-- The argument at an index. -/
def at? (args : List Value) (index : Int) : Except Error Value :=
  if index < 0 then .error (.typeMismatch (.argumentIndex index))
  else
    match ensure (.atLeast (index.toNat + 1)) args with
    | .error e => .error e
    | .ok () => itemAt args index

/-- The argument at an index, if it has a conversion. -/
def convertible (wanted : Capability) (args : List Value) (index : Int) : Except Error Value :=
  match at? args index with
  | .error e => .error e
  | .ok arg =>
    if arg.supports wanted then .ok arg
    else .error (.typeMismatch (.argumentNotConvertible wanted))

def double (args : List Value) (index : Int) : Except Error Double :=
  match convertible .double args index with
  | .error e => .error e
  | .ok arg => arg.toDouble

def int (args : List Value) (index : Int) : Except Error Int :=
  match convertible .int args index with
  | .error e => .error e
  | .ok arg => arg.toInt

def string (args : List Value) (index : Int) : Except Error String :=
  match convertible .string args index with
  | .error e => .error e
  | .ok arg => arg.toText

def bool (args : List Value) (index : Int) : Except Error Bool :=
  match convertible .bool args index with
  | .error e => .error e
  | .ok arg => arg.toBool

/-- The argument at an index, unconverted, if a class admits it. -/
def ofClass (test : ClassTest) (args : List Value) (index : Int) : Except Error Value :=
  match at? args index with
  | .error e => .error e
  | .ok arg =>
    match test.admits arg with
    | .error e => .error e
    | .ok true => .ok arg
    | .ok false => .error (.typeMismatch (.argumentClass test.name))

/-- The doubles of all arguments from an index on. -/
def doublesFrom (args : List Value) (index count : Nat) : Except Error (List Double) :=
  match count with
  | 0 => .ok []
  | count + 1 =>
    match double args index with
    | .error e => .error e
    | .ok x =>
      match doublesFrom args (index + 1) count with
      | .error e => .error e
      | .ok xs => .ok (x :: xs)

def doubles (args : List Value) : Except Error (List Double) :=
  doublesFrom args 0 args.length

end Arguments
end Formula
