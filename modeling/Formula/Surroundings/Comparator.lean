import Formula.Value.Convert
import Formula.Value.Order

/-!
# Formula.Surroundings.Comparator

Rules for the comparisons that a host makes.
-/

namespace Formula

/-- How a host compares two values. -/
inductive ComparatorRule where
  | constant (b : Bool)
  | failing (e : Error)
  | byText
  | byId

def notComparableById : Error :=
  .stated .invalidOperation "Invalid operands types for comparison." none

def ComparatorRule.apply (rule : ComparatorRule) (left right : Value) (c : Comparison) :
    Except Error Bool :=
  match rule with
  | constant b => .ok b
  | failing e => .error e
  | byText =>
    match left.toText with
    | .error e => .error e
    | .ok s =>
      match right.toText with
      | .error e => .error e
      | .ok t => .ok (c.onStrings s t)
  | byId =>
    match left, right with
    | .host a, .host b => .ok (c.onStrings a.id b.id)
    | _, _ => .error notComparableById

end Formula
