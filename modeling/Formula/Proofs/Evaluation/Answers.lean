import Formula.Proofs.Evaluation.Congruence
import Formula.Proofs.Evaluation.Reaching

/-!
# Formula.Proofs.Evaluation.Answers

What an evaluation depends on: the answers to the queries that it makes, and nothing else. If other
surroundings give these answers too, each at its point, the run in them is the same, with the same
queries and the same value or error (`task_determined`). What the surroundings would have answered
to a query that was not made, because an operand was left out or an error came first, has no part
in the outcome (`evaluate_determined`).
-/

namespace Formula

/-! ## Surroundings that answer alike -/

namespace Resolvers

/-- To a query that is made after the queries `past`, both surroundings give the same answer. -/
def Concur (r r' : Resolvers) (past : List Query) : Query → Prop
  | .var name => r'.var past name = r.var past name
  | .function name args => r'.function past name args = r.function past name args
  | .comparison left c right => r'.compare past left right c = r.compare past left right c

/-- Both surroundings give the same answers to queries in a row, the first of them made after the
queries `past`. -/
def ConcurOn (r r' : Resolvers) (past queries : List Query) : Prop :=
  ∀ before q, before ++ [q] <+: queries → r.Concur r' (past ++ before) q

/-- Surroundings whose answers do not depend on the queries before. -/
structure Stateless (r : Resolvers) : Prop where
  var : ∀ past name, r.var past name = r.var [] name
  function : ∀ past name args, r.function past name args = r.function [] name args
  compare : ∀ past left right c, r.compare past left right c = r.compare [] left right c

/-- The surroundings `r`, except that `other` answers the queries that are `changed`. -/
def override (r other : Resolvers) (changed : Query → Bool) : Resolvers where
  var past name := if changed (.var name) then other.var past name else r.var past name
  function past name args :=
    if changed (.function name args) then other.function past name args
    else r.function past name args
  compare past left right c :=
    if changed (.comparison left c right) then other.compare past left right c
    else r.compare past left right c

variable {r r' other : Resolvers} {past first later queries : List Query} {q : Query}

theorem ConcurOn.left (h : r.ConcurOn r' past (first ++ later)) : r.ConcurOn r' past first :=
  fun before q hq => h before q (hq.trans (List.prefix_append first later))

theorem ConcurOn.right (h : r.ConcurOn r' past (first ++ later)) :
    r.ConcurOn r' (past ++ first) later := by
  intro before q hq
  have hwhole : first ++ before ++ [q] <+: first ++ later := by
    rw [List.append_assoc]
    exact (List.prefix_append_right_inj first).mpr hq
  rw [List.append_assoc]
  exact h (first ++ before) q hwhole

theorem ConcurOn.single (h : r.ConcurOn r' past [q]) : r.Concur r' past q := by
  have hq := h [] q (List.prefix_refl [q])
  rwa [List.append_nil] at hq

theorem concur_of_stateless (hr : r.Stateless) (hr' : r'.Stateless) (h : r.Concur r' [] q) :
    r.Concur r' past q := by
  cases q with
  | var name => exact (hr'.var past name).trans (h.trans (hr.var past name).symm)
  | function name args =>
    exact (hr'.function past name args).trans (h.trans (hr.function past name args).symm)
  | comparison left c right =>
    exact (hr'.compare past left right c).trans (h.trans (hr.compare past left right c).symm)

theorem concur_override {changed : Query → Bool} (h : changed q = false) :
    r.Concur (r.override other changed) past q := by
  cases q <;> simp [Concur, override, h]

end Resolvers

/-! ## Tasks that run alike -/

/-- A task and the same task in other surroundings: their runs are equal if the answers to the
queries of the first run are. -/
def Task.Determined {α : Type} (r r' : Resolvers) (task task' : Task α) : Prop :=
  ∀ past, r.ConcurOn r' past (task past).queries → task' past = task past

section Tasks

variable {α β : Type} {r r' : Resolvers}

/-- The answers are the same only as far as the first run goes: to its end, or to an error. -/
theorem Task.Determined.andThen {first first' : Task α} {next next' : α → Task β}
    (h : Task.Determined r r' first first')
    (hnext : ∀ a, Task.Determined r r' (next a) (next' a)) :
    Task.Determined r r' (first.andThen next) (first'.andThen next') := by
  intro past hpast
  rcases hrun : first past with ⟨queries, err | a⟩
  · rw [Task.andThen_error hrun] at hpast ⊢
    have hfirst := h past (by rwa [hrun])
    rw [hrun] at hfirst
    exact Task.andThen_error hfirst
  · rw [Task.andThen_ok hrun] at hpast ⊢
    have hfirst := h past (by rw [hrun]; exact hpast.left)
    rw [hrun] at hfirst
    rw [Task.andThen_ok hfirst, hnext a (past ++ queries) hpast.right]

theorem askVar_determined (name : String) :
    Task.Determined r r' (r.askVar name) (r'.askVar name) := by
  intro past hpast
  have hanswer : r'.var past name = r.var past name := hpast.single
  rw [Resolvers.askVar, Resolvers.askVar, hanswer]

theorem callFunction_determined (name : String) (args : List Value) :
    Task.Determined r r' (r.callFunction name args) (r'.callFunction name args) := by
  intro past hpast
  have hanswer : r'.function past name args = r.function past name args := hpast.single
  rw [Resolvers.callFunction, Resolvers.callFunction, hanswer]

theorem askComparison_determined (left right : Value) (c : Comparison) :
    Task.Determined r r' (r.askComparison left right c) (r'.askComparison left right c) := by
  intro past hpast
  have hanswer : r'.compare past left right c = r.compare past left right c := hpast.single
  rw [Resolvers.askComparison, Resolvers.askComparison, hanswer]

theorem congruence_determined (r r' : Resolvers) : Task.Congruence (Task.Determined r r') where
  ofResult _ _ _ := rfl
  andThen := Task.Determined.andThen

theorem task_determined (r r' : Resolvers) (e : Expr) :
    Task.Determined r r' (e.task r) (e.task r') :=
  task_congr_self (congruence_determined r r') ⟨callFunction_determined, askComparison_determined⟩
    askVar_determined e

end Tasks

/-- The run of an expression is the same in any surroundings that give the same answers to its
queries, each after the queries before it. For surroundings whose answers depend on nothing but the
query, the same answers to the queries of the run are enough. So whatever is changed in the answers
to queries that the run does not make, for values or for errors, the outcome stays the same. -/
theorem evaluate_determined (r r' : Resolvers) (e : Expr) :
    ((∀ before q, before ++ [q] <+: (e.evaluate r).queries → r.Concur r' before q) →
      e.evaluate r' = e.evaluate r) ∧
    (r.Stateless → r'.Stateless → (∀ q ∈ (e.evaluate r).queries, r.Concur r' [] q) →
      e.evaluate r' = e.evaluate r) ∧
    (∀ changed : Query → Bool, (∀ q ∈ (e.evaluate r).queries, changed q = false) →
      e.evaluate (r.override r' changed) = e.evaluate r) := by
  have hmem : ∀ {before : List Query} {q : Query},
      before ++ [q] <+: (e.evaluate r).queries → q ∈ (e.evaluate r).queries :=
    fun hq => hq.subset (List.mem_append_right _ (List.mem_singleton_self _))
  refine ⟨fun h => ?_, fun hr hr' h => ?_, fun changed h => ?_⟩
  · exact task_determined r r' e [] h
  · refine task_determined r r' e [] fun before q hq => ?_
    exact Resolvers.concur_of_stateless hr hr' (h q (hmem hq))
  · refine task_determined r (r.override r' changed) e [] fun before q hq => ?_
    exact Resolvers.concur_override (h q (hmem hq))

/-- Where a variable decides a `||`, other values of all other variables, and functions where there
were none, make no difference. -/
theorem evaluate_determined_by_left_operand :
    let r : Resolvers := { var := fun _ name =>
      if name = "#a" then .ok (.bool true) else .error (.variableNotFound name) }
    let r' : Resolvers :=
      { var := fun _ _ => .ok (.bool true), function := fun _ _ _ => .ok (.bool false) }
    let e : Expr := .binary (.var "#a") .or (.call "f" [.var "#b"])
    (∀ q ∈ (e.evaluate r).queries, r.Concur r' [] q) ∧ e.evaluate r' = e.evaluate r := by
  intro r r' e
  have hqueries : (e.evaluate r).queries = [.var "#a"] := rfl
  have hconcur : ∀ q ∈ (e.evaluate r).queries, r.Concur r' [] q := by
    intro q hq
    rw [hqueries, List.mem_singleton] at hq
    subst hq
    exact rfl
  have hr : r.Stateless := ⟨fun _ _ => rfl, fun _ _ _ => rfl, fun _ _ _ _ => rfl⟩
  have hr' : r'.Stateless := ⟨fun _ _ => rfl, fun _ _ _ => rfl, fun _ _ _ _ => rfl⟩
  exact ⟨hconcur, (evaluate_determined r r' e).2.1 hr hr' hconcur⟩

end Formula
