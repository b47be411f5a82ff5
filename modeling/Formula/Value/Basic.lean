import Formula.Error.Basic

/-!
# Formula.Value.Basic

Runtime values: what variables hold, functions return and expressions evaluate to. Beside the
native values there are host objects, opaque but for an identity, a class, at most four conversions,
each of which may fail, and the items of those that are sequences. So the sequences that are neither
lists nor tuples are host objects, ranges and queues among them. What a host object answers is the
same each time that it is asked.
-/

namespace Formula

/-- What a host may give as its number. -/
inductive Number where
  | double (x : Double)
  | int (n : Int)
  | bool (b : Bool)
deriving DecidableEq

/-- What can be asked of a sequence: its length, which fails if it is out of range, and the items at
the indices below it, which may fail as well. -/
structure Sequence (α : Type) where
  length : Except Error Nat
  item : Nat → Except Error α

mutual

/-- A host object with the conversions that it offers, and its items if it is a sequence. Messages
show it by its class and its identity. Each conversion gives what it is declared to give: an integer,
where a truth value is none, a string, or a truth value. Only the number for a double may be of any
kind, since it is converted once more. -/
structure Host where
  className : String
  id : String
  double : Option (Except Error Number)
  int : Option (Except Error Int)
  string : Option (Except Error String)
  bool : Option (Except Error Bool)
  sequence : Option (Sequence Value) := none

inductive Value where
  | null
  | bool (b : Bool)
  | int (n : Int)
  | double (x : Double)
  | string (s : String)
  | list (items : List Value)
  | tuple (items : List Value)
  | bytes (data : List UInt8)
  | record (fields : List (String × Value))
  | host (object : Host)

end

instance : Inhabited Value := ⟨.null⟩

/-- The classes of values; every host class is one of its own. -/
inductive ValueClass where
  | null
  | bool
  | int
  | double
  | string
  | list
  | tuple
  | bytes
  | record
  | host (name : String)
deriving DecidableEq

namespace ValueClass

def name : ValueClass → String
  | null => "NoneType"
  | bool => "bool"
  | int => "int"
  | double => "float"
  | string => "str"
  | list => "list"
  | tuple => "tuple"
  | bytes => "bytes"
  | record => "dict"
  | host name => name

def natives : List ValueClass :=
  [null, bool, int, double, string, list, tuple, bytes, record]

/-- The class of a name; a name that no native class has is that of a host class. -/
def ofName (name : String) : ValueClass :=
  match natives.find? fun c => c.name = name with
  | some c => c
  | none => host name

end ValueClass

namespace Value

def classOf : Value → ValueClass
  | null => .null
  | bool _ => .bool
  | int _ => .int
  | double _ => .double
  | string _ => .string
  | list _ => .list
  | tuple _ => .tuple
  | bytes _ => .bytes
  | record _ => .record
  | host object => .host object.className

/-- The elements of a list or a tuple. -/
def elements? : Value → Option (List Value)
  | list items => some items
  | tuple items => some items
  | _ => none

end Value

/-- The item of a list at an index; a negative one counts from the end. -/
def itemAt (items : List Value) (index : Int) : Except Error Value :=
  match if index < 0 then index + items.length else index with
  | .negSucc _ => .error .noElement
  | .ofNat n =>
    match items[n]? with
    | some item => .ok item
    | none => .error .noElement

/-- A list as a sequence. -/
def Sequence.ofList (items : List Value) : Sequence Value where
  length := .ok items.length
  item n := itemAt items n

@[simp] theorem Sequence.item_ofList (items : List Value) (n : Nat) :
    (ofList items).item n = itemAt items n := rfl

/-- The values that can be indexed, as sequences. Strings and bytes are none of them. -/
def Value.sequence? : Value → Option (Sequence Value)
  | host object => object.sequence
  | v => v.elements?.map .ofList

/-- The native classes that stand for a result type. -/
inductive ScalarClass where
  | bool
  | int
  | double
  | string
deriving DecidableEq

def ScalarClass.toValueClass : ScalarClass → ValueClass
  | bool => .bool
  | int => .int
  | double => .double
  | string => .string

/-- A class to ask for: that of all values, a native class that stands for a result type, where a
truth value is no number, or any other class. Such a class is known by its name and its own test of
instances, which may admit values of other classes, derived from it or not, and may fail. -/
inductive ClassTest where
  | any
  | only (c : ScalarClass)
  | tested (name : String) (test : Value → Except Error Bool)

namespace ClassTest

def name : ClassTest → String
  | any => "object"
  | only c => c.toValueClass.name
  | tested name _ => name

def admits : ClassTest → Value → Except Error Bool
  | any, _ => .ok true
  | only c, v => .ok (v.classOf = c.toValueClass)
  | tested _ test, v => test v

/-- A class that admits the values of its own and no others. -/
def exactly (c : ValueClass) : ClassTest := tested c.name fun v => .ok (v.classOf = c)

/-- The class of a name, where no class is derived from another. -/
def ofName (name : String) : ClassTest :=
  if name = "object" then any
  else match ValueClass.ofName name with
    | .bool => only .bool
    | .int => only .int
    | .double => only .double
    | .string => only .string
    | c => exactly c

end ClassTest
end Formula
