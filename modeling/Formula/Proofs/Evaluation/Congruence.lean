import Formula.Evaluate

/-!
# Formula.Proofs.Evaluation.Congruence

Relations between tasks that evaluation respects. Evaluation makes its tasks from results, from
queries and by going on from one task to the next, and looks at nothing but the value between two
tasks. So a relation that holds of results and is kept by going on (`Task.Congruence`) holds of an
expression in two surroundings as soon as it holds of the queries, and expressions may even be
substituted for variables on one side (`task_congr`).
-/

namespace Formula

namespace Expr

mutual

/-- The expression with `σ name` in the place of each variable `name`. Variables that are indexed
stay as they are. -/
def substitute (σ : String → Expr) : Expr → Expr
  | literal value => literal value
  | var name => σ name
  | index name i => index name (substitute σ i)
  | call function args => call function (substituteAll σ args)
  | unary op operand => unary op (substitute σ operand)
  | binary left op right => binary (substitute σ left) op (substitute σ right)

def substituteAll (σ : String → Expr) : List Expr → List Expr
  | [] => []
  | arg :: rest => substitute σ arg :: substituteAll σ rest

end

mutual

/-- The names of the variables that are indexed. -/
def indexed : Expr → List String
  | literal _ => []
  | var _ => []
  | index name i => name :: indexed i
  | call _ args => indexedAll args
  | unary _ operand => indexed operand
  | binary left _ right => indexed left ++ indexed right

def indexedAll : List Expr → List String
  | [] => []
  | arg :: rest => indexed arg ++ indexedAll rest

end

theorem substitute_var (e : Expr) : e.substitute var = e := by
  induction e with
  | literal value => rfl
  | var name => rfl
  | index name i ih => rw [substitute, ih]
  | call function args ih =>
    have hall : ∀ args : List Expr, (∀ arg ∈ args, arg.substitute var = arg) →
        substituteAll var args = args := by
      intro args h
      induction args with
      | nil => rfl
      | cons arg rest ihrest =>
        obtain ⟨harg, hrest⟩ := List.forall_mem_cons.mp h
        rw [substituteAll, harg, ihrest hrest]
    rw [substitute, hall args ih]
  | unary op operand ih => rw [substitute, ih]
  | binary left op right ihl ihr => rw [substitute, ihl, ihr]

end Expr

/-- A relation between tasks, for every type of results: it holds of a result and itself, and of
tasks that go on in related ways from related tasks. -/
structure Task.Congruence (rel : ∀ {α : Type}, Task α → Task α → Prop) : Prop where
  ofResult : ∀ {α : Type} (result : Except Error α),
    rel (Task.ofResult result) (Task.ofResult result)
  andThen : ∀ {α β : Type} {first first' : Task α} {next next' : α → Task β}, rel first first' →
    (∀ a, rel (next a) (next' a)) → rel (first.andThen next) (first'.andThen next')

/-- The queries for functions and comparisons, made to the one surroundings and to the other, are
related tasks. -/
structure Resolvers.Related (rel : ∀ {α : Type}, Task α → Task α → Prop) (r r' : Resolvers) :
    Prop where
  function : ∀ name args, rel (r.callFunction name args) (r'.callFunction name args)
  compare : ∀ left right c, rel (r.askComparison left right c) (r'.askComparison left right c)

section Congruence

variable {rel : ∀ {α : Type}, Task α → Task α → Prop} {r r' : Resolvers}

theorem compareValues_congr (h : Task.Congruence rel) (hr : r.Related rel r') (c : Comparison)
    (left right : Value) : rel (compareValues r c left right) (compareValues r' c left right) := by
  rw [compareValues, compareValues]
  cases compareNatively? c left right with
  | none => exact hr.compare left right c
  | some result => exact h.ofResult result

theorem applyBinary_congr (h : Task.Congruence rel) (hr : r.Related rel r') (op : Operator)
    (left right : Value) : rel (applyBinary r op left right) (applyBinary r' op left right) := by
  have hcompare : ∀ c (f : Bool → Bool),
      rel ((compareValues r c left right).andThen fun b => Task.pure (Value.bool (f b)))
        ((compareValues r' c left right).andThen fun b => Task.pure (Value.bool (f b))) := fun c _ =>
    h.andThen (compareValues_congr h hr c left right) fun _ => h.ofResult _
  cases op with
  | notEqual => exact hcompare .equal Bool.not
  | equal => exact hcompare .equal id
  | greater => exact hcompare .greater id
  | greaterOrEqual => exact hcompare .greaterOrEqual id
  | less => exact hcompare .less id
  | lessOrEqual => exact hcompare .lessOrEqual id
  | _ => exact h.ofResult _

theorem truth_congr (h : Task.Congruence rel) {operand operand' : Task Value} (side : Side)
    (op : Operator) (hoperand : rel operand operand') :
    rel (operand.truth side op) (operand'.truth side op) :=
  h.andThen hoperand fun _ => h.ofResult _

variable {σ : String → Expr}

/-- The expression with its substitutions, in the one surroundings, is related to the expression
itself in the other, if the queries for its indexed variables are. -/
def Expr.Related (rel : ∀ {α : Type}, Task α → Task α → Prop) (r r' : Resolvers)
    (σ : String → Expr) (e : Expr) : Prop :=
  (∀ name ∈ e.indexed, rel (r.askVar name) (r'.askVar name)) →
    rel ((e.substitute σ).task r) (e.task r')

theorem taskAll_congr (h : Task.Congruence rel) {args : List Expr}
    (ih : ∀ arg ∈ args, arg.Related rel r r' σ)
    (hindexed : ∀ name ∈ Expr.indexedAll args, rel (r.askVar name) (r'.askVar name)) :
    rel (Expr.taskAll r (Expr.substituteAll σ args)) (Expr.taskAll r' args) := by
  induction args with
  | nil => exact h.ofResult _
  | cons arg rest ihrest =>
    obtain ⟨harg, hrest⟩ := List.forall_mem_cons.mp ih
    rw [Expr.indexedAll, List.forall_mem_append] at hindexed
    rw [Expr.substituteAll, Expr.taskAll, Expr.taskAll]
    refine h.andThen (harg hindexed.1) fun v => ?_
    exact h.andThen (ihrest hrest hindexed.2) fun vs => h.ofResult _

/-- An expression is evaluated by related tasks in surroundings whose queries are related, with
expressions in the place of variables on the one side. -/
theorem task_congr (h : Task.Congruence rel) (hr : r.Related rel r')
    (hvar : ∀ name, rel ((σ name).task r) (r'.askVar name)) (e : Expr) : e.Related rel r r' σ := by
  induction e with
  | literal value => exact fun _ => h.ofResult _
  | var name => exact fun _ => hvar name
  | index name i ih =>
    intro hindexed
    obtain ⟨hname, hi⟩ := List.forall_mem_cons.mp hindexed
    rw [Expr.substitute, Expr.task, Expr.task]
    refine h.andThen hname fun array => ?_
    cases array.sequence? with
    | none => exact h.ofResult _
    | some items => exact h.andThen (ih hi) fun place => h.ofResult _
  | call function args ih =>
    intro hindexed
    rw [Expr.substitute, Expr.task, Expr.task]
    exact h.andThen (taskAll_congr h ih hindexed) fun values => hr.function function values
  | unary op operand ih =>
    intro hindexed
    rw [Expr.substitute, Expr.task, Expr.task]
    exact h.andThen (ih hindexed) fun v => h.ofResult _
  | binary left op right ihl ihr =>
    intro hindexed
    rw [Expr.indexed, List.forall_mem_append] at hindexed
    have hleft := ihl hindexed.1
    have hright := ihr hindexed.2
    rw [Expr.substitute]
    cases hop : op.decider? with
    | some decider =>
      rw [Expr.task_logical r _ _ hop, Expr.task_logical r' left right hop]
      refine h.andThen (truth_congr h .left op hleft) fun a => ?_
      split
      · exact h.ofResult _
      · exact h.andThen (truth_congr h .right op hright) fun b => h.ofResult _
    | none =>
      rw [Expr.task_binary r _ _ hop, Expr.task_binary r' left right hop]
      exact h.andThen hleft fun a => h.andThen hright fun b => applyBinary_congr h hr op a b

/-- Nothing is substituted: the queries for variables have to be related as those for functions and
comparisons are. -/
theorem task_congr_self (h : Task.Congruence rel) (hr : r.Related rel r')
    (hvar : ∀ name, rel (r.askVar name) (r'.askVar name)) (e : Expr) :
    rel (e.task r) (e.task r') := by
  have hrelated : rel ((e.substitute .var).task r) (e.task r') :=
    task_congr (σ := .var) h hr hvar e fun name _ => hvar name
  rwa [Expr.substitute_var] at hrelated

end Congruence

end Formula
