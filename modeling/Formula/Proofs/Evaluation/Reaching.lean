import Mathlib.Data.List.Basic
import Formula.Evaluate

/-!
# Formula.Proofs.Evaluation.Reaching

Where an evaluation goes. `Descends` says that the evaluation of an expression, from given queries
on, comes to evaluate one of its operands, and from which queries on; `Reaches` follows such steps
down a path, and `Finds` says what holds at its end. Each operand is come to at one point only
(`Descends.unique`). An error of an operand that is reached is the error of the whole, and nothing is
asked after it (`reaches_error`).
-/

namespace Formula

namespace Task

variable {α β : Type} {first : Task α} {next : α → Task β} {past queries : List Query}

theorem andThen_ok {a : α} (h : first past = ⟨queries, .ok a⟩) :
    first.andThen next past =
      ⟨queries ++ (next a (past ++ queries)).queries, (next a (past ++ queries)).result⟩ := by
  simp only [andThen, h]

theorem andThen_error {e : Error} (h : first past = ⟨queries, .error e⟩) :
    first.andThen next past = ⟨queries, .error e⟩ := by
  simp only [andThen, h]

/-- What comes next fails as part of the whole. -/
theorem andThen_next_error {a : α} {later : List Query} {e : Error}
    (h : first past = ⟨queries, .ok a⟩) (hnext : next a (past ++ queries) = ⟨later, .error e⟩) :
    first.andThen next past = ⟨queries ++ later, .error e⟩ := by
  rw [andThen_ok h, hnext]

end Task

/-- A truth value comes of the operand's value. -/
theorem truth_ok {operand : Task Value} {side : Side} {op : Operator} {past queries : List Query}
    {b : Bool} (h : operand.truth side op past = ⟨queries, .ok b⟩) :
    ∃ v, operand past = ⟨queries, .ok v⟩ ∧ logicalOperand side op v = .ok b := by
  rcases hv : operand past with ⟨before, err | v⟩
  · rw [Task.truth, Task.andThen_error hv] at h
    cases h
  · rw [Task.truth, Task.andThen_ok hv, Task.ofResult, List.append_nil] at h
    obtain ⟨rfl, hb⟩ := Run.mk.inj h
    exact ⟨v, rfl, hb⟩

/-- The numbers of the operands on the way down an expression. -/
abbrev Path := List Nat

/-- From the queries `past` on, an expression comes to evaluate its operand `k`, from the queries
`later` on. -/
inductive Descends (r : Resolvers) : List Query → Expr → Nat → List Query → Expr → Prop where
  | index {past : List Query} {name : String} {i : Expr} {array : Value} {items : Sequence Value} :
      r.var past name = .ok array → array.sequence? = some items →
      Descends r past (.index name i) 0 (past ++ [.var name]) i
  | argument {past queries : List Query} {function : String} {args : List Expr} {k : Nat}
      {arg : Expr} {vs : List Value} :
      args[k]? = some arg → Expr.taskAll r (args.take k) past = ⟨queries, .ok vs⟩ →
      Descends r past (.call function args) k (past ++ queries) arg
  | operand {past : List Query} {op : Operator} {e : Expr} :
      Descends r past (.unary op e) 0 past e
  | left {past : List Query} {op : Operator} {left right : Expr} :
      Descends r past (.binary left op right) 0 past left
  | right {past queries : List Query} {op : Operator} {left right : Expr} {v : Value} :
      left.task r past = ⟨queries, .ok v⟩ →
      (∀ decider, op.decider? = some decider → logicalOperand .left op v = .ok (!decider)) →
      Descends r past (.binary left op right) 1 (past ++ queries) right

section Right

variable {r : Resolvers} {past queries : List Query} {op : Operator} {left right : Expr} {v : Value}

/-- The right operand is evaluated if the left one does not decide the node. -/
theorem Descends.right_undecided {decider b : Bool} (hop : op.decider? = some decider)
    (hleft : left.task r past = ⟨queries, .ok v⟩) (hv : logicalOperand .left op v = .ok b)
    (hb : b ≠ decider) : Descends r past (.binary left op right) 1 (past ++ queries) right := by
  refine .right hleft fun d hd => ?_
  cases hop.symm.trans hd
  rw [hv, Bool.eq_not_of_ne hb]

/-- The right operand is evaluated if no operand can decide the node. -/
theorem Descends.right_always (hop : op.decider? = none)
    (hleft : left.task r past = ⟨queries, .ok v⟩) :
    Descends r past (.binary left op right) 1 (past ++ queries) right := by
  refine .right hleft fun d hd => ?_
  rw [hop] at hd
  cases hd

end Right

/-- From the queries `past` on, an expression comes to evaluate what stands at the end of a path
in it, from the queries `later` on. -/
inductive Reaches (r : Resolvers) : List Query → Expr → Path → List Query → Expr → Prop where
  | here {past : List Query} {e : Expr} : Reaches r past e [] past e
  | down {past between later : List Query} {e e' e'' : Expr} {k : Nat} {path : Path} :
      Descends r past e k between e' → Reaches r between e' path later e'' →
      Reaches r past e (k :: path) later e''

/-- An operand is evaluated at one point of the evaluation only. -/
theorem Descends.unique {r : Resolvers} {past later later' : List Query} {e e' e'' : Expr} {k : Nat}
    (h : Descends r past e k later e') (h' : Descends r past e k later' e'') :
    later = later' ∧ e' = e'' := by
  cases h with
  | index | operand | left =>
    cases h'
    exact ⟨rfl, rfl⟩
  | argument hk hbefore =>
    cases h' with
    | argument hk' hbefore' =>
      cases hk.symm.trans hk'
      cases hbefore.symm.trans hbefore'
      exact ⟨rfl, rfl⟩
  | right hleft =>
    cases h' with
    | right hleft' =>
      cases hleft.symm.trans hleft'
      exact ⟨rfl, rfl⟩

/-- The evaluation of an expression comes to a node on a path of which `N` holds there. -/
def Finds (r : Resolvers) (N : List Query → Expr → Prop) (past : List Query) (e : Expr)
    (path : Path) : Prop :=
  ∃ later e', Reaches r past e path later e' ∧ N later e'

section Finds

variable {r : Resolvers} {N : List Query → Expr → Prop} {past later : List Query} {e e' : Expr}
  {k : Nat} {path : Path}

theorem Finds.down (hstep : Descends r past e k later e') (h : Finds r N later e' path) :
    Finds r N past e (k :: path) := by
  obtain ⟨last, e'', hreach, hN⟩ := h
  exact ⟨last, e'', .down hstep hreach, hN⟩

theorem finds_nil_iff : Finds r N past e [] ↔ N past e := by
  constructor
  · rintro ⟨_, _, ⟨⟩, hN⟩
    exact hN
  · intro hN
    exact ⟨past, e, .here, hN⟩

/-- What is found below an operand that is reached is found in the operand. -/
theorem finds_cons_iff (hstep : Descends r past e k later e') :
    Finds r N past e (k :: path) ↔ Finds r N later e' path := by
  constructor
  · rintro ⟨last, e'', hreach, hN⟩
    cases hreach with
    | down hstep' hrest =>
      obtain ⟨rfl, rfl⟩ := hstep.unique hstep'
      exact ⟨last, e'', hrest, hN⟩
  · exact Finds.down hstep

end Finds

/-- The first arguments have values if the first one has and those after it have. -/
theorem taskAll_take_succ {r : Resolvers} {past queries later : List Query} {first : Expr}
    {rest : List Expr} {k : Nat} {v : Value} {vs : List Value}
    (hfirst : first.task r past = ⟨queries, .ok v⟩)
    (hrest : Expr.taskAll r (rest.take k) (past ++ queries) = ⟨later, .ok vs⟩) :
    Expr.taskAll r ((first :: rest).take (k + 1)) past = ⟨queries ++ later, .ok (v :: vs)⟩ := by
  rw [List.take_succ_cons, Expr.taskAll, Task.andThen_ok hfirst, Task.andThen_ok hrest]
  simp [Task.pure, Task.ofResult]

section Errors

variable {r : Resolvers} {past later queries : List Query} {e e' : Expr} {err : Error}

theorem taskAll_error {args : List Expr} {k : Nat} {arg : Expr} {vs : List Value}
    (hk : args[k]? = some arg) (hbefore : Expr.taskAll r (args.take k) past = ⟨queries, .ok vs⟩)
    (harg : arg.task r (past ++ queries) = ⟨later, .error err⟩) :
    Expr.taskAll r args past = ⟨queries ++ later, .error err⟩ := by
  induction args generalizing k past queries vs with
  | nil => simp at hk
  | cons first rest ih =>
    cases k with
    | zero =>
      cases hk
      cases hbefore
      rw [List.append_nil] at harg
      exact Task.andThen_error harg
    | succ k =>
      rw [List.getElem?_cons_succ] at hk
      rw [List.take_succ_cons, Expr.taskAll] at hbefore
      rcases hfirst : first.task r past with ⟨before, v | v⟩
      · rw [Task.andThen_error hfirst] at hbefore
        cases hbefore
      · rw [Task.andThen_ok hfirst] at hbefore
        rcases hrest : Expr.taskAll r (rest.take k) (past ++ before) with ⟨between, ws | ws⟩
        · rw [Task.andThen_error hrest] at hbefore
          cases hbefore
        · rw [Task.andThen_ok hrest] at hbefore
          cases hbefore
          have hlater := ih hk hrest (by simpa [Task.pure, Task.ofResult] using harg)
          rw [Expr.taskAll, Task.andThen_next_error hfirst (Task.andThen_error hlater)]
          simp [Task.pure, Task.ofResult]

theorem descends_error {k : Nat} (h : Descends r past e k later e')
    (herr : e'.task r later = ⟨queries, .error err⟩) :
    ∃ before, later = past ++ before ∧ e.task r past = ⟨before ++ queries, .error err⟩ := by
  cases h with
  | @index name i array items hvar hitems =>
    have hask : r.askVar name past = ⟨[.var name], .ok array⟩ := by rw [Resolvers.askVar, hvar]
    refine ⟨[.var name], rfl, ?_⟩
    rw [Expr.task]
    refine Task.andThen_next_error hask ?_
    simp only [hitems]
    exact Task.andThen_error herr
  | argument hk hbefore =>
    refine ⟨_, rfl, ?_⟩
    rw [Expr.task]
    exact Task.andThen_error (taskAll_error hk hbefore herr)
  | operand =>
    refine ⟨[], by simp, ?_⟩
    rw [Expr.task]
    exact Task.andThen_error herr
  | @left op _ right =>
    refine ⟨[], by simp, ?_⟩
    cases hop : op.decider? with
    | some decider =>
      rw [Expr.task_logical r _ _ hop]
      exact Task.andThen_error (Task.andThen_error herr)
    | none =>
      rw [Expr.task_binary r _ _ hop]
      exact Task.andThen_error herr
  | @right before op left _ v hleft hundecided =>
    refine ⟨before, rfl, ?_⟩
    cases hop : op.decider? with
    | some decider =>
      have htruth : (left.task r).truth .left op past = ⟨before, .ok (!decider)⟩ := by
        rw [Task.truth, Task.andThen_ok hleft, hundecided decider hop]
        simp [Task.ofResult]
      rw [Expr.task_logical r _ _ hop]
      refine Task.andThen_next_error htruth ?_
      rw [if_neg (by cases decider <;> simp)]
      exact Task.andThen_error (Task.andThen_error herr)
    | none =>
      rw [Expr.task_binary r _ _ hop]
      exact Task.andThen_next_error hleft (Task.andThen_error herr)

/-- An evaluation ends with the first error that it reaches. -/
theorem reaches_error {path : Path} (h : Reaches r past e path later e')
    (herr : e'.task r later = ⟨queries, .error err⟩) :
    ∃ before, later = past ++ before ∧ e.task r past = ⟨before ++ queries, .error err⟩ := by
  induction h with
  | here => exact ⟨[], by simp, herr⟩
  | down hstep _ ih =>
    obtain ⟨after, rfl, hafter⟩ := ih herr
    obtain ⟨before, rfl, hbefore⟩ := descends_error hstep hafter
    exact ⟨before ++ after, by simp, by rw [hbefore, List.append_assoc]⟩

end Errors

end Formula
