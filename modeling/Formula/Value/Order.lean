import Formula.Value.Basic

/-!
# Formula.Value.Order

Exact equality and order of values, without conversion: numbers by their exact values with truth
values as 0 and 1, strings by code points, lists and tuples by their first difference. Values of
other classes are equal or not but have no order, and a host object equals nothing.
-/

namespace Formula

namespace Number

/-- The order of an integer and a double by their exact values; there is none with NaN. -/
def orderIntDouble (n : Int) : Double → Option Ordering
  | .nan => none
  | .infinite s => some (if s then .gt else .lt)
  | .finite s m _ => some (compare (n * unitsPerOne) (Double.signed s m))

/-- The exact value, an integer where it is one by nature. -/
def exact : Number → Int ⊕ Double
  | double x => .inr x
  | int n => .inl n
  | bool b => .inl (if b then 1 else 0)

def order (a b : Number) : Option Ordering :=
  match a.exact, b.exact with
  | .inl m, .inl n => some (compare m n)
  | .inl m, .inr y => orderIntDouble m y
  | .inr x, .inl n => (orderIntDouble n x).map Ordering.swap
  | .inr x, .inr y => x.order? y

/-- Whether a comparison holds between numbers; none does with NaN. -/
def holds (c : Comparison) (a b : Number) : Bool :=
  (a.order b).any c.admits

end Number

/-- The order of texts by their code points, a beginning of a text being less than it. -/
def orderChars : List Char → List Char → Ordering
  | [], [] => .eq
  | [], _ :: _ => .lt
  | _ :: _, [] => .gt
  | c :: cs, d :: ds => (compare c.toNat d.toNat).then (orderChars cs ds)

def orderBytes : List UInt8 → List UInt8 → Ordering
  | [], [] => .eq
  | [], _ :: _ => .lt
  | _ :: _, [] => .gt
  | a :: as, b :: bs => (compare a.toNat b.toNat).then (orderBytes as bs)

/-- Whether a comparison holds between doubles; none does with NaN. -/
def Comparison.onDoubles (c : Comparison) (x y : Double) : Bool :=
  (x.order? y).any c.admits

def Comparison.onStrings (c : Comparison) (s t : String) : Bool :=
  c.admits (orderChars s.toList t.toList)

namespace Value

def number? : Value → Option Number
  | bool b => some (.bool b)
  | int n => some (.int n)
  | double x => some (.double x)
  | _ => none

mutual

def equals : Value → Value → Bool
  | null, null => true
  | string s, string t => s = t
  | bytes a, bytes b => a = b
  | list a, list b => equalsAll a b
  | tuple a, tuple b => equalsAll a b
  | record a, record b => a.length = b.length && equalsFields a b
  | a, b =>
    match a.number?, b.number? with
    | some x, some y => x.holds .equal y
    | _, _ => false

def equalsAll : List Value → List Value → Bool
  | [], [] => true
  | a :: as, b :: bs => equals a b && equalsAll as bs
  | _, _ => false

/-- Whether every field has an equal one of the same name among others. -/
def equalsFields : List (String × Value) → List (String × Value) → Bool
  | [], _ => true
  | (key, item) :: rest, others =>
    (match others.lookup key with
      | some other => equals item other
      | none => false) && equalsFields rest others

end

mutual

def compares (c : Comparison) : Value → Value → Except Error Bool
  | string s, string t => .ok (c.onStrings s t)
  | bytes a, bytes b => .ok (c.admits (orderBytes a b))
  | list a, list b => comparesAll c a b
  | tuple a, tuple b => comparesAll c a b
  | a, b =>
    match a.number?, b.number? with
    | some x, some y => .ok (x.holds c y)
    | _, _ => .error .unordered

/-- Decided by the first elements that differ, or else by the lengths. -/
def comparesAll (c : Comparison) : List Value → List Value → Except Error Bool
  | [], [] => .ok (c.admits .eq)
  | [], _ :: _ => .ok (c.admits .lt)
  | _ :: _, [] => .ok (c.admits .gt)
  | a :: as, b :: bs => if equals a b then comparesAll c as bs else compares c a b

end

/-- Whether a comparison holds between two values. All values can be tested for equality. -/
def holds (c : Comparison) (a b : Value) : Except Error Bool :=
  match c with
  | .equal => .ok (equals a b)
  | c => compares c a b

end Value
end Formula
