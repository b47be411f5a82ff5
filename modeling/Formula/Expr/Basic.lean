import Formula.Double.Basic
import Formula.Operator

/-!
# Formula.Expr.Basic

Abstract syntax of expressions. The name of a variable includes the sign in front of it.
-/

namespace Formula

inductive Literal where
  | number (x : Double)
  | string (s : String)
  | boolean (b : Bool)
deriving DecidableEq

inductive Expr where
  | literal (value : Literal)
  | var (name : String)
  | index (name : String) (index : Expr)
  | call (function : String) (args : List Expr)
  | unary (op : Operator) (operand : Expr)
  | binary (left : Expr) (op : Operator) (right : Expr)

instance : Inhabited Expr := ⟨.var ""⟩

namespace Expr

/-- What holds of an expression as soon as it holds of all its operands holds of all expressions. -/
@[elab_as_elim, induction_eliminator]
theorem induct {motive : Expr → Prop} (literal : ∀ value, motive (.literal value))
    (var : ∀ name, motive (.var name))
    (index : ∀ name i, motive i → motive (.index name i))
    (call : ∀ function args, (∀ arg ∈ args, motive arg) → motive (.call function args))
    (unary : ∀ op operand, motive operand → motive (.unary op operand))
    (binary : ∀ left op right, motive left → motive right → motive (.binary left op right))
    (e : Expr) : motive e := by
  refine @Expr.rec motive (fun args => ∀ arg ∈ args, motive arg) literal var index call unary binary
    ?_ ?_ e
  · intro arg hmem
    cases hmem
  · intro first rest hfirst hrest arg hmem
    rcases List.mem_cons.mp hmem with rfl | h
    · exact hfirst
    · exact hrest arg h

end Expr

end Formula
