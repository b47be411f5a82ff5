import Formula.Proofs.Operators.Basic

/-!
# Formula.Proofs.Operators.Logic

The laws of Boolean algebra for `!`, `&&` and `||`. Tasks for truth values have a negation and a
conjunction or disjunction that stops at a deciding first part, and for these the laws are equations
(`Task.negated_stopping`, `Task.stopping_assoc`). The operators evaluate by them, except that each
has its own words for an operand that is no truth value. So both sides of a law make the same
queries and have the same result, or end at the same such operand, both with a mismatch
(`boolean_laws`).
-/

namespace Formula

/-! ## Tasks for truth values -/

namespace Task

/-- The truth value as the value of an expression. -/
def asValue (task : Task Bool) : Task Value :=
  task.andThen fun b => pure (.bool b)

def negated (task : Task Bool) : Task Bool :=
  task.andThen fun b => pure (!b)

/-- Conjunction, with the decider false, or disjunction, with the decider true: the second part is
left out if the first one is the decider. -/
def stopping (decider : Bool) (first second : Task Bool) : Task Bool :=
  first.andThen fun b => if b = decider then pure decider else second

/-- The truth value of an operand. Without the conversion to truth values it is a mismatch with the
given cause. -/
def truthElse (cause : Mismatch) (operand : Task Value) : Task Bool :=
  operand.andThen fun v =>
    ofResult (if v.supports .bool then v.toBool else .error (.typeMismatch cause))

variable {first second third : Task Bool} {decider : Bool}

theorem truthElse_asValue (cause : Mismatch) (task : Task Bool) :
    truthElse cause task.asValue = task := by
  rw [truthElse, asValue, andThen_assoc]
  simp only [pure_andThen]
  exact andThen_pure task

theorem negated_negated (task : Task Bool) : task.negated.negated = task := by
  simp only [negated, andThen_assoc, pure_andThen, Bool.not_not]
  exact andThen_pure task

theorem negated_stopping : (stopping decider first second).negated =
    stopping (!decider) first.negated second.negated := by
  simp only [negated, stopping, andThen_assoc, pure_andThen]
  congr 1
  funext b
  cases b <;> cases decider <;> simp [pure_andThen]

theorem stopping_assoc : stopping decider (stopping decider first second) third =
    stopping decider first (stopping decider second third) := by
  simp only [stopping, andThen_assoc]
  congr 1
  funext b
  by_cases h : b = decider
  · simp [h, pure_andThen]
  · simp [h]

/-- A conjunction with truth or a disjunction with falsity. -/
theorem stopping_pure (task : Task Bool) : stopping decider task (pure !decider) = task := by
  have hnext : (fun b => if b = decider then pure decider else pure !decider) =
      (pure : Bool → Task Bool) := by
    funext b
    cases b <;> cases decider <;> rfl
  rw [stopping, hnext, andThen_pure]

end Task

/-! ## Operators -/

section Operators

variable (r : Resolvers)

theorem task_not (e : Expr) : (Expr.unary .not e).task r =
    (Task.truthElse .negationNotBool (e.task r)).negated.asValue := by
  simp only [Expr.task, Task.asValue, Task.negated, Task.truthElse, Task.andThen_assoc,
    Task.ofResult_andThen_pure]
  congr 1
  funext v
  rw [applyUnary]
  cases v.supports .bool with
  | false => rfl
  | true => cases v.toBool <;> rfl

theorem task_stopping (left right : Expr) {op : Operator} {decider : Bool}
    (h : op.decider? = some decider) : (Expr.binary left op right).task r =
      (Task.stopping decider
        (Task.truthElse (.operandNotBool .left op) (left.task r))
        (Task.truthElse (.operandNotBool .right op) (right.task r))).asValue := by
  rw [Expr.task_logical r left right h, Task.asValue, Task.stopping, Task.andThen_assoc]
  show ((left.task r).truth .left op).andThen _ = ((left.task r).truth .left op).andThen _
  congr 1
  funext b
  split
  · rw [Task.pure_andThen]
  · rfl

end Operators

/-! ## Operands that are no truth values -/

/-- After the queries `past`, the last of these queries were those of one of the expressions, whose
value does not convert to truth values. -/
def EndsUnfit (r : Resolvers) (operands : List Expr) (past queries : List Query) : Prop :=
  ∃ e ∈ operands, ∃ before later v, queries = before ++ later ∧
    e.task r (past ++ before) = ⟨later, .ok v⟩ ∧ v.supports .bool = false

/-- Whatever was asked before, both tasks make the same queries and have the same result, or both
end with a mismatch at an operand that is no truth value. -/
def Task.Matches (r : Resolvers) (operands : List Expr) {α : Type} (task task' : Task α) : Prop :=
  ∀ past, (task past).queries = (task' past).queries ∧
    ((task past).result = (task' past).result ∨
      EndsUnfit r operands past (task past).queries ∧
      ∃ cause cause', (task past).result = .error (.typeMismatch cause) ∧
        (task' past).result = .error (.typeMismatch cause'))

section Matches

variable {r : Resolvers} {operands : List Expr} {α β : Type}

theorem EndsUnfit.after {past first later : List Query}
    (h : EndsUnfit r operands (past ++ first) later) :
    EndsUnfit r operands past (first ++ later) := by
  obtain ⟨e, hmem, before, last, v, rfl, hrun, hv⟩ := h
  exact ⟨e, hmem, first ++ before, last, v, by simp, by rwa [← List.append_assoc], hv⟩

theorem Task.Matches.refl (task : Task α) : Task.Matches r operands task task :=
  fun _ => ⟨rfl, .inl rfl⟩

theorem Task.Matches.andThen {first first' : Task α} {next next' : α → Task β}
    (h : Task.Matches r operands first first')
    (hnext : ∀ a, Task.Matches r operands (next a) (next' a)) :
    Task.Matches r operands (first.andThen next) (first'.andThen next') := by
  intro past
  obtain ⟨hqueries, hresult⟩ := h past
  rcases hrun : first past with ⟨queries, result⟩
  rcases hrun' : first' past with ⟨queries', result'⟩
  simp only [hrun, hrun'] at hqueries hresult
  subst hqueries
  rcases hresult with rfl | ⟨hunfit, cause, cause', rfl, rfl⟩
  · cases result with
    | error err =>
      rw [Task.andThen_error hrun, Task.andThen_error hrun']
      exact ⟨rfl, .inl rfl⟩
    | ok a =>
      obtain ⟨hlater, hlast⟩ := hnext a (past ++ queries)
      rw [Task.andThen_ok hrun, Task.andThen_ok hrun']
      refine ⟨by rw [hlater], hlast.imp_right fun ⟨hunfit, hcauses⟩ => ⟨hunfit.after, hcauses⟩⟩
  · rw [Task.andThen_error hrun, Task.andThen_error hrun']
    exact ⟨rfl, .inr ⟨hunfit, cause, cause', rfl, rfl⟩⟩

/-- The same operand, with different words for a value that is no truth value. -/
theorem matches_truthElse {e : Expr} (hmem : e ∈ operands) (cause cause' : Mismatch) :
    Task.Matches r operands (Task.truthElse cause (e.task r))
      (Task.truthElse cause' (e.task r)) := by
  intro past
  rcases hrun : e.task r past with ⟨queries, err | v⟩
  · rw [Task.truthElse, Task.truthElse, Task.andThen_error hrun, Task.andThen_error hrun]
    exact ⟨rfl, .inl rfl⟩
  · rw [Task.truthElse, Task.truthElse, Task.andThen_ok hrun, Task.andThen_ok hrun]
    simp only [Task.ofResult, List.append_nil]
    refine ⟨trivial, ?_⟩
    cases hv : v.supports .bool with
    | true => exact .inl rfl
    | false =>
      exact .inr ⟨⟨e, hmem, [], queries, v, rfl, by rwa [List.append_nil], hv⟩, cause, cause', rfl,
        rfl⟩

theorem Task.Matches.asValue {task task' : Task Bool} (h : Task.Matches r operands task task') :
    Task.Matches r operands task.asValue task'.asValue :=
  h.andThen fun _ => .refl _

theorem Task.Matches.negated {task task' : Task Bool} (h : Task.Matches r operands task task') :
    Task.Matches r operands task.negated task'.negated :=
  h.andThen fun _ => .refl _

theorem Task.Matches.stopping {first first' second second' : Task Bool} (decider : Bool)
    (h : Task.Matches r operands first first') (h' : Task.Matches r operands second second') :
    Task.Matches r operands (Task.stopping decider first second)
      (Task.stopping decider first' second') := by
  refine h.andThen fun b => ?_
  split
  · exact .refl _
  · exact h'

end Matches

/-! ## Laws -/

/-- Whatever was asked before, both expressions make the same queries, and have the same truth
value, or the same error, or end with a mismatch at one of the operands, whose value is no truth
value. -/
def Expr.Interchangeable (r : Resolvers) (operands : List Expr) (e e' : Expr) : Prop :=
  ∀ past, ∃ queries,
    (∃ b, e.task r past = ⟨queries, .ok (.bool b)⟩ ∧ e'.task r past = ⟨queries, .ok (.bool b)⟩) ∨
    (∃ err, e.task r past = ⟨queries, .error err⟩ ∧ e'.task r past = ⟨queries, .error err⟩) ∨
    EndsUnfit r operands past queries ∧ ∃ cause cause',
      e.task r past = ⟨queries, .error (.typeMismatch cause)⟩ ∧
      e'.task r past = ⟨queries, .error (.typeMismatch cause')⟩

section Laws

variable {r : Resolvers} {operands : List Expr} {a b c e e' : Expr} {op op' : Operator}
  {decider : Bool}

theorem asValue_eq_ok {task : Task Bool} {past : List Query} {v : Value}
    (h : (task.asValue past).result = .ok v) : ∃ b, v = .bool b := by
  rw [Task.asValue] at h
  rcases hrun : task past with ⟨queries, err | b⟩
  · rw [Task.andThen_error hrun] at h
    cases h
  · rw [Task.andThen_ok hrun] at h
    cases h
    exact ⟨b, rfl⟩

theorem interchangeable_of_matches {task task' : Task Bool} (he : e.task r = task.asValue)
    (he' : e'.task r = task'.asValue) (h : Task.Matches r operands task task') :
    e.Interchangeable r operands e' := by
  intro past
  obtain ⟨hqueries, hresult⟩ := h.asValue past
  rw [he, he']
  rcases hrun : task.asValue past with ⟨queries, result⟩
  rcases hrun' : task'.asValue past with ⟨queries', result'⟩
  simp only [hrun, hrun'] at hqueries hresult
  subst hqueries
  refine ⟨queries, ?_⟩
  rcases hresult with rfl | ⟨hunfit, cause, cause', rfl, rfl⟩
  · cases result with
    | error err => exact .inr (.inl ⟨err, rfl, rfl⟩)
    | ok v =>
      have hok : (task.asValue past).result = .ok v := by rw [hrun]
      obtain ⟨b, rfl⟩ := asValue_eq_ok hok
      exact .inl ⟨b, rfl, rfl⟩
  · exact .inr (.inr ⟨hunfit, cause, cause', rfl, rfl⟩)

theorem interchangeable_negation (hop : op.decider? = some decider)
    (hop' : op'.decider? = some !decider) :
    Expr.Interchangeable r [a, b] (.unary .not (.binary a op b))
      (.binary (.unary .not a) op' (.unary .not b)) := by
  refine interchangeable_of_matches (task_not r _) (task_stopping r _ _ hop') ?_
  rw [task_stopping r a b hop, task_not, task_not]
  simp only [Task.truthElse_asValue, Task.negated_stopping]
  exact .stopping _ (matches_truthElse (by simp) _ _).negated
    (matches_truthElse (by simp) _ _).negated

theorem interchangeable_assoc (hop : op.decider? = some decider) :
    Expr.Interchangeable r [a, b, c] (.binary (.binary a op b) op c)
      (.binary a op (.binary b op c)) := by
  refine interchangeable_of_matches (task_stopping r _ _ hop) (task_stopping r _ _ hop) ?_
  rw [task_stopping r a b hop, task_stopping r b c hop]
  simp only [Task.truthElse_asValue, Task.stopping_assoc]
  exact .stopping _ (.refl _)
    (.stopping _ (matches_truthElse (by simp) _ _) (.refl _))

theorem interchangeable_double_negation :
    Expr.Interchangeable r [a] (.unary .not (.unary .not a))
      (.binary a .and (.literal (.boolean true))) := by
  have htrue : Task.truthElse (.operandNotBool .right .and)
      ((Expr.literal (.boolean true)).task r) = .pure !false :=
    Task.truthElse_asValue _ (.pure true)
  refine interchangeable_of_matches (task_not r _) (task_stopping r _ _ rfl) ?_
  rw [task_not, Task.truthElse_asValue, Task.negated_negated, htrue, Task.stopping_pure]
  exact matches_truthElse (by simp) _ _

end Laws

/-- The laws of Boolean algebra that the short-circuit operators obey, for all operands and in all
surroundings: negation exchanges `&&` and `||`, both are associative, and a double negation is a
conjunction with truth. -/
theorem boolean_laws (r : Resolvers) (a b c : Expr) :
    Expr.Interchangeable r [a, b] (.unary .not (.binary a .and b))
      (.binary (.unary .not a) .or (.unary .not b)) ∧
    Expr.Interchangeable r [a, b] (.unary .not (.binary a .or b))
      (.binary (.unary .not a) .and (.unary .not b)) ∧
    Expr.Interchangeable r [a, b, c] (.binary (.binary a .and b) .and c)
      (.binary a .and (.binary b .and c)) ∧
    Expr.Interchangeable r [a, b, c] (.binary (.binary a .or b) .or c)
      (.binary a .or (.binary b .or c)) ∧
    Expr.Interchangeable r [a] (.unary .not (.unary .not a))
      (.binary a .and (.literal (.boolean true))) := by
  refine ⟨?_, ?_, ?_, ?_, ?_⟩
  · exact interchangeable_negation rfl rfl
  · exact interchangeable_negation rfl rfl
  · exact interchangeable_assoc rfl
  · exact interchangeable_assoc rfl
  · exact interchangeable_double_negation

end Formula
