import Formula.Proofs.Evaluation.Reaching

/-!
# Formula.Proofs.Operators.Basic

The laws of going on from one task to the next, and binary nodes whose operands have values
(`Operands`). An operator that evaluates both of them makes its own queries after theirs, and its
result is that of the node (`task_of_operands`).
-/

namespace Formula

namespace Task

variable {α β γ : Type}

theorem pure_andThen (a : α) (next : α → Task β) : (pure a).andThen next = next a := by
  funext past
  simp [andThen, pure, ofResult]

theorem andThen_assoc (first : Task α) (next : α → Task β) (last : β → Task γ) :
    (first.andThen next).andThen last = first.andThen fun a => (next a).andThen last := by
  funext past
  rcases h : first past with ⟨queries, err | a⟩
  · rw [andThen_error h, andThen_error (andThen_error h)]
  · rcases hnext : next a (past ++ queries) with ⟨later, err | b⟩
    · rw [andThen_next_error h (andThen_error hnext), andThen_error (andThen_next_error h hnext)]
    · have hboth : first.andThen next past = ⟨queries ++ later, .ok b⟩ := by
        rw [andThen_ok h, hnext]
      rw [andThen_ok hboth, andThen_ok h, andThen_ok hnext]
      simp only [List.append_assoc]

theorem ofResult_andThen_pure (result : Except Error α) (f : α → β) :
    ((ofResult result).andThen fun a => pure (f a)) = ofResult (result.map f) := by
  cases result <;> rfl

theorem andThen_pure (first : Task α) : first.andThen pure = first := by
  funext past
  rcases h : first past with ⟨queries, err | a⟩
  · rw [andThen_error h]
  · rw [andThen_ok h]
    simp [pure, ofResult]

end Task

/-- From the queries `past` on, the operands of a binary node are evaluated to `a` and `b`, by these
queries. -/
def Operands (r : Resolvers) (past : List Query) (left right : Expr) (queries : List Query)
    (a b : Value) : Prop :=
  ∃ first second, queries = first ++ second ∧ left.task r past = ⟨first, .ok a⟩ ∧
    right.task r (past ++ first) = ⟨second, .ok b⟩

theorem task_of_operands {r : Resolvers} {past queries : List Query} {left right : Expr}
    {op : Operator} {a b : Value} (hop : op.decider? = none)
    (h : Operands r past left right queries a b) :
    (Expr.binary left op right).task r past =
      ⟨queries ++ (applyBinary r op a b (past ++ queries)).queries,
        (applyBinary r op a b (past ++ queries)).result⟩ := by
  obtain ⟨first, second, rfl, hleft, hright⟩ := h
  rw [Expr.task_binary r left right hop, Task.andThen_ok hleft, Task.andThen_ok hright]
  simp only [List.append_assoc]

end Formula
