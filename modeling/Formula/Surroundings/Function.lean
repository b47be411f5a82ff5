import Formula.Bindings
import Formula.Library

/-!
# Formula.Surroundings.Function

Functions of a host that are given as data: rules for what a function does with its arguments, and
tables of such rules, which stand beside the library as sources of functions.
-/

namespace Formula

/-- What a host's function asks of one of its arguments. -/
inductive ArgumentUse where
  | converted (wanted : Capability)
  | ofClass (test : ClassTest)

def ArgumentUse.take (use : ArgumentUse) (args : List Value) (index : Int) : Except Error Value :=
  match use with
  | converted .double => (Arguments.double args index).map .double
  | converted .int => (Arguments.int args index).map .int
  | converted .string => (Arguments.string args index).map .string
  | converted .bool => (Arguments.bool args index).map .bool
  | ofClass test => Arguments.ofClass test args index

/-- What a host's function does. -/
inductive FunctionRule where
  | constant (v : Value)
  | failing (e : Error)
  | list
  | count
  | sum
  | argument (use : ArgumentUse) (index : Int)
  | ensuring (kind : String) (bound : Int) (next : FunctionRule)

def sumOf (args : List Value) : Except Error Value :=
  match Arguments.doubles args with
  | .error e => .error e
  | .ok xs => .ok (.double (xs.foldl Double.add .zero))

def ensureKind (kind : String) (bound : Int) (args : List Value) : Except Error Unit :=
  match Arity.ofKind kind bound with
  | .error fault => .error (.malformedArity fault)
  | .ok arity => Arguments.ensure arity args

def FunctionRule.apply : FunctionRule → List Value → Except Error Value
  | constant v, _ => .ok v
  | failing e, _ => .error e
  | list, args => .ok (.list args)
  | count, args => .ok (.int args.length)
  | sum, args => sumOf args
  | argument use index, args => use.take args index
  | ensuring kind bound next, args =>
    match ensureKind kind bound args with
    | .error e => .error e
    | .ok () => next.apply args

inductive FunctionSource where
  | library
  | table (rules : Bindings FunctionRule)

def FunctionSource.call (name : String) (args : List Value) : FunctionSource → Except Error Value
  | library => Library.call name args
  | table rules =>
    match rules.get? name with
    | some rule => rule.apply args
    | none => .error (.functionNotFound name)

end Formula
