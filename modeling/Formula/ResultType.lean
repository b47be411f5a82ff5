import Formula.Value.Basic

/-!
# Formula.ResultType

The types that a result can be asked for, by name or by class, with the ranges of the integer types.
-/

-- Powers are taken with the instance of the core library, whatever other instances are known.
attribute [local instance (10000)] instPowNat

namespace Formula

inductive IntegerType where
  | int
  | int8
  | int16
  | int32
  | int64
  | uint
  | uint8
  | uint16
  | uint32
  | uint64
deriving DecidableEq, Repr

namespace IntegerType

def name : IntegerType → String
  | int => "int"
  | int8 => "int8"
  | int16 => "int16"
  | int32 => "int32"
  | int64 => "int64"
  | uint => "uint"
  | uint8 => "uint8"
  | uint16 => "uint16"
  | uint32 => "uint32"
  | uint64 => "uint64"

/-- The least value, if there is one. -/
def least? : IntegerType → Option Int
  | int => none
  | int8 => some (-2 ^ (7 : Nat))
  | int16 => some (-2 ^ (15 : Nat))
  | int32 => some (-2 ^ (31 : Nat))
  | int64 => some (-2 ^ (63 : Nat))
  | uint | uint8 | uint16 | uint32 | uint64 => some 0

/-- The greatest value, if there is one. -/
def greatest? : IntegerType → Option Int
  | int | uint => none
  | int8 => some (2 ^ (7 : Nat) - 1)
  | int16 => some (2 ^ (15 : Nat) - 1)
  | int32 => some (2 ^ (31 : Nat) - 1)
  | int64 => some (2 ^ (63 : Nat) - 1)
  | uint8 => some (2 ^ (8 : Nat) - 1)
  | uint16 => some (2 ^ (16 : Nat) - 1)
  | uint32 => some (2 ^ (32 : Nat) - 1)
  | uint64 => some (2 ^ (64 : Nat) - 1)

def contains (t : IntegerType) (n : Int) : Bool :=
  t.least?.all (fun low => decide (low ≤ n)) && t.greatest?.all (fun high => decide (n ≤ high))

end IntegerType

inductive ResultType where
  | any
  | integer (t : IntegerType)
  | float
  | float32
  | float64
  | bool
  | string
deriving DecidableEq, Repr

namespace ResultType

def all : List ResultType :=
  [any, integer .int, integer .int8, integer .int16, integer .int32, integer .int64,
    integer .uint, integer .uint8, integer .uint16, integer .uint32, integer .uint64,
    float, float32, float64, bool, string]

def name : ResultType → String
  | any => "any"
  | integer t => t.name
  | float => "float"
  | float32 => "float32"
  | float64 => "float64"
  | bool => "bool"
  | string => "str"

def ofName? (name : String) : Option ResultType :=
  all.find? fun t => t.name = name

/-- The type that a value already has. -/
def ofValue? : Value → Option ResultType
  | .bool _ => some bool
  | .int _ => some (integer .int)
  | .double _ => some float64
  | .string _ => some string
  | _ => none

end ResultType

/-- What a result is asked to be: a type by its name, which may be unknown, or a class. -/
inductive Target where
  | named (name : String)
  | ofClass (test : ClassTest)

namespace Target

def any : Target := named "any"

/-- The result type that a class stands for, if there is one. -/
def typeOfClass? : ClassTest → Option ResultType
  | .any => some .any
  | .only .int => some (.integer .int)
  | .only .double => some .float64
  | .only .bool => some .bool
  | .only .string => some .string
  | .tested _ _ => none

end Target
end Formula
