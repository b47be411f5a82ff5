import Formula.Proofs.Evaluation.Answers

/-!
# Formula.Proofs.Evaluation.Substitution

Expressions in the place of variables. Where the surroundings answer a variable with what an
expression evaluates to, the expression may stand for the variable: wherever the one is evaluated,
the other is, as often and in the same order, and the queries for it stand where the one query was
(`Task.Expands`, which is a congruence). So an expression in the place of a variable acts as its
value does, although no literal may have that value (`evaluate_substitute`).
-/

namespace Formula

/-- One variable is replaced and all others stay. -/
def Expr.replacing (name : String) (replacement : Expr) : String → Expr := fun other =>
  if other = name then replacement else var other

/-! ## Queries in the place of queries -/

/-- The run with the queries `f q` in the place of each query `q`. -/
def Run.expand {α : Type} (f : Query → List Query) (run : Run α) : Run α :=
  ⟨run.queries.flatMap f, run.result⟩

/-- The queries in the place of each query for a variable. -/
def Query.replacing (name : String) (queries : List Query) : Query → List Query
  | .var other => if other = name then queries else [.var other]
  | q => [q]

/-- Whatever was asked before, the first task runs as the second does, with the queries `f q` in the
place of each query `q`. -/
def Task.Expands {α : Type} (f : Query → List Query) (task task' : Task α) : Prop :=
  ∀ past past', task past = (task' past').expand f

namespace Resolvers

/-- The surroundings with a value for a variable. -/
def assign (r : Resolvers) (name : String) (v : Value) : Resolvers where
  var past other := if other = name then .ok v else r.var past other
  function := r.function
  compare := r.compare

variable {r : Resolvers} {name other : String} {v : Value}

theorem askVar_assign (past : List Query) :
    (r.assign name v).askVar name past = ⟨[.var name], .ok v⟩ := by
  simp only [askVar, assign, if_true]

theorem askVar_assign_of_ne (h : other ≠ name) :
    (r.assign name v).askVar other = r.askVar other := by
  funext past
  simp only [askVar, assign, h, if_false]

/-- Neither functions nor comparisons are asked for the value of a variable. -/
theorem Related.assign {rel : ∀ {α : Type}, Task α → Task α → Prop} {r' : Resolvers}
    (h : r.Related rel r') (name : String) (v : Value) : r.Related rel (r'.assign name v) :=
  ⟨h.function, h.compare⟩

end Resolvers

theorem Task.Expands.andThen {α β : Type} {f : Query → List Query} {first first' : Task α}
    {next next' : α → Task β} (h : Task.Expands f first first')
    (hnext : ∀ a, Task.Expands f (next a) (next' a)) :
    Task.Expands f (first.andThen next) (first'.andThen next') := by
  intro past past'
  have hfirst := h past past'
  rcases hrun : first' past' with ⟨queries, err | a⟩
  · rw [hrun] at hfirst
    rw [Task.andThen_error hrun]
    exact Task.andThen_error hfirst
  · rw [hrun] at hfirst
    rw [Task.andThen_ok hrun, Task.andThen_ok hfirst, hnext a _ (past' ++ queries)]
    simp only [Run.expand, List.flatMap_append]

theorem congruence_expands (f : Query → List Query) : Task.Congruence (Task.Expands f) where
  ofResult _ _ _ := rfl
  andThen := Task.Expands.andThen

/-! ## Surroundings without a memory -/

namespace Resolvers.Stateless

variable {r : Resolvers}

theorem askVar_expands {f : Query → List Query} {name : String} (hr : r.Stateless)
    (hf : f (.var name) = [.var name]) : Task.Expands f (r.askVar name) (r.askVar name) := by
  intro past past'
  rw [askVar, askVar, hr.var past, hr.var past', Run.expand, List.flatMap_singleton, hf]

theorem expands {f : Query → List Query} (hr : r.Stateless)
    (hfunction : ∀ name args, f (.function name args) = [.function name args])
    (hcompare : ∀ left c right, f (.comparison left c right) = [.comparison left c right]) :
    r.Related (Task.Expands f) r where
  function name args past past' := by
    rw [callFunction, callFunction, hr.function past, hr.function past', Run.expand,
      List.flatMap_singleton, hfunction]
  compare left right c past past' := by
    rw [askComparison, askComparison, hr.compare past, hr.compare past', Run.expand,
      List.flatMap_singleton, hcompare]

/-- An expression runs in the same way whatever was asked before. -/
theorem task_eq (hr : r.Stateless) (e : Expr) (past : List Query) : e.task r past = e.evaluate r := by
  have hsame : Task.Expands (fun q => [q]) (e.task r) (e.task r) :=
    task_congr_self (congruence_expands _) (hr.expands (fun _ _ => rfl) fun _ _ _ => rfl)
      (fun name => hr.askVar_expands rfl) e
  rw [hsame past [], Run.expand, List.flatMap_singleton', Expr.evaluate]

end Resolvers.Stateless

/-- An expression with a value, in the place of a variable that is not indexed, does what the
variable does where it has this value: the results are the same, and so are the queries, with those
for the value of the expression in the place of each query for the variable. The expression may
itself speak of a variable of this name. -/
theorem evaluate_substitute {r : Resolvers} (hr : r.Stateless) {name : String} {e s : Expr} {u : Value}
    (hname : name ∉ e.indexed) (hs : (s.evaluate r).result = .ok u) :
    (e.substitute (Expr.replacing name s)).evaluate r =
      ((e.evaluate (r.assign name u)).expand
        (Query.replacing name (s.evaluate r).queries)) := by
  have hother : ∀ other, other ≠ name →
      Task.Expands (Query.replacing name (s.evaluate r).queries) (r.askVar other)
        ((r.assign name u).askVar other) := by
    intro other hne
    rw [Resolvers.askVar_assign_of_ne hne]
    exact hr.askVar_expands (if_neg hne)
  have hsurroundings : r.Related (Task.Expands (Query.replacing name (s.evaluate r).queries))
      (r.assign name u) :=
    (hr.expands (fun _ _ => rfl) fun _ _ _ => rfl).assign name u
  refine task_congr (congruence_expands _) hsurroundings (fun other => ?_) e
    (fun other hmem => hother other fun heq => hname (heq ▸ hmem)) [] []
  by_cases hsame : other = name
  · subst hsame
    intro past past'
    rw [Expr.replacing, if_pos rfl, hr.task_eq, Resolvers.askVar_assign, Run.expand,
      List.flatMap_singleton, Query.replacing, if_pos rfl, ← hs]
  · rw [Expr.replacing, if_neg hsame]
    exact hother other hsame

/-- A list in the place of a variable: its expression is evaluated for each of two arguments, and
not for the operand that the call leaves out. -/
theorem evaluate_substitute_twice :
    let items : Value := .list [.int 1, .null]
    let r : Resolvers :=
      { var := fun _ _ => .ok (.int 1)
        function := fun _ name _ => if name = "g" then .ok items else .ok (.bool true) }
    let s : Expr := .call "g" [.var "#a"]
    let e : Expr := .binary (.call "f" [.var "#t", .var "#t"]) .or (.var "#t")
    r.Stateless ∧ "#t" ∉ e.indexed ∧ (s.evaluate r).result = .ok items ∧
      (e.evaluate (r.assign "#t" items)).queries =
        [.var "#t", .var "#t", .function "f" [items, items]] ∧
      (e.substitute (Expr.replacing "#t" s)).evaluate r =
        ⟨[.var "#a", .function "g" [.int 1], .var "#a", .function "g" [.int 1],
          .function "f" [items, items]], .ok (.bool true)⟩ := by
  intro items r s e
  have hr : r.Stateless := ⟨fun _ _ => rfl, fun _ _ _ => rfl, fun _ _ _ _ => rfl⟩
  have hname : "#t" ∉ e.indexed := by decide
  have hs : (s.evaluate r).result = .ok items := rfl
  exact ⟨hr, hname, hs, rfl, evaluate_substitute hr hname hs⟩

end Formula
