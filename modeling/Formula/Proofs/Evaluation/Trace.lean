import Formula.Proofs.Evaluation.Reaching

/-!
# Formula.Proofs.Evaluation.Trace

The queries of an evaluation, told from the expression alone. Every node of an expression has at
most one event of its own, and `Expr.events` lists them in order, less the right operands of the
nodes that are marked as skipped and the comparisons that are not marked as asked. A run marks the
nodes that it comes to and finds cause for a mark at, and no others (`marksOf`). Its queries are a
beginning of the list with these marks, and all of it if the run has a value (`task_explained`).
-/

namespace Formula

/-- A query without the values in it. -/
inductive Event where
  | var (name : String)
  | function (name : String)
  | comparison (c : Comparison)
deriving DecidableEq

def Query.event : Query → Event
  | var name => .var name
  | function name _ => .function name
  | comparison _ c _ => .comparison c

/-- The comparison that a binary operator makes. -/
def Operator.comparison? : Operator → Option Comparison
  | .notEqual => some .equal
  | op => Comparison.ofOperator? op

/-- What a comparison operator makes of the truth of its comparison. -/
def Operator.verdict (op : Operator) (t : Bool) : Bool :=
  if op = .notEqual then !t else t

/-- Marks on the nodes of an expression: those whose right operand is skipped, and those whose
comparison is asked of the surroundings. -/
structure Marks where
  skipped : Path → Bool
  asked : Path → Bool

/-- The marks on an operand. -/
def Marks.below (m : Marks) (k : Nat) : Marks :=
  ⟨fun path => m.skipped (k :: path), fun path => m.asked (k :: path)⟩

namespace Expr

mutual

/-- The events of an expression in order, as its marks have it. -/
def events : Expr → Marks → List Event
  | literal _, _ => []
  | var name, _ => [.var name]
  | index name i, m => .var name :: events i (m.below 0)
  | call function args, m => eventsAll args m.below ++ [.function function]
  | unary _ operand, m => events operand (m.below 0)
  | binary left op right, m =>
    events left (m.below 0) ++ (if m.skipped [] then [] else events right (m.below 1)) ++
      (match op.comparison? with
        | some c => if m.asked [] then [.comparison c] else []
        | none => [])

def eventsAll : List Expr → (Nat → Marks) → List Event
  | [], _ => []
  | arg :: rest, ms => events arg (ms 0) ++ eventsAll rest fun k => ms (k + 1)

end

end Expr

/-! ## Cause for a mark -/

/-- A `&&` or `||` whose left operand, from the queries `past` on, has the value that decides it:
false for `&&`, true for `||`. -/
def Decided (r : Resolvers) (past : List Query) (e : Expr) : Prop :=
  ∃ left op right decider queries v, e = .binary left op right ∧ op.decider? = some decider ∧
    left.task r past = ⟨queries, .ok v⟩ ∧ logicalOperand .left op v = .ok decider

/-- A comparison of two values that no built-in rule compares. -/
def Consults (r : Resolvers) (past : List Query) (e : Expr) : Prop :=
  ∃ left op right c queries a later b, e = .binary left op right ∧ op.comparison? = some c ∧
    left.task r past = ⟨queries, .ok a⟩ ∧ right.task r (past ++ queries) = ⟨later, .ok b⟩ ∧
    compareNatively? c a b = none

open Classical in
/-- The marks that an evaluation finds cause for. -/
noncomputable def marksOf (r : Resolvers) (past : List Query) (e : Expr) : Marks where
  skipped path := decide (Finds r (Decided r) past e path)
  asked path := decide (Finds r (Consults r) past e path)

section Marks

variable {r : Resolvers} {past later queries : List Query} {e e' left right : Expr} {op : Operator}
  {k : Nat}

theorem marksOf_skipped_iff {path : Path} :
    (marksOf r past e).skipped path = true ↔ Finds r (Decided r) past e path := by
  simp only [marksOf, decide_eq_true_eq]

theorem marksOf_asked_iff {path : Path} :
    (marksOf r past e).asked path = true ↔ Finds r (Consults r) past e path := by
  simp only [marksOf, decide_eq_true_eq]

/-- The marks on an operand that is reached are its own. -/
theorem marksOf_below (hstep : Descends r past e k later e') :
    (marksOf r past e).below k = marksOf r later e' := by
  simp only [marksOf, Marks.below, Marks.mk.injEq]
  exact ⟨funext fun _ => decide_eq_decide.mpr (finds_cons_iff hstep),
    funext fun _ => decide_eq_decide.mpr (finds_cons_iff hstep)⟩

/-- A node of which the left operand has a truth value is marked if that decides it, and only then. -/
theorem skipped_iff {decider b : Bool} {v : Value} (hop : op.decider? = some decider)
    (hleft : left.task r past = ⟨queries, .ok v⟩) (hv : logicalOperand .left op v = .ok b) :
    (marksOf r past (.binary left op right)).skipped [] = true ↔ b = decider := by
  rw [marksOf_skipped_iff, finds_nil_iff]
  constructor
  · rintro ⟨left', op', right', decider', queries', v', heq, hop', hleft', hv'⟩
    cases heq
    cases hop.symm.trans hop'
    cases hleft.symm.trans hleft'
    cases hv.symm.trans hv'
    rfl
  · rintro rfl
    exact ⟨left, op, right, b, queries, v, rfl, hop, hleft, hv⟩

theorem not_skipped (hop : op.decider? = none) :
    (marksOf r past (.binary left op right)).skipped [] = false := by
  rw [← Bool.not_eq_true, marksOf_skipped_iff, finds_nil_iff]
  rintro ⟨left', op', right', decider, queries', v, heq, hop', -⟩
  cases heq
  cases hop.symm.trans hop'

/-- A comparison of two values is marked if no built-in rule compares them, and only then. -/
theorem asked_iff {c : Comparison} {a b : Value} (hc : op.comparison? = some c)
    (hleft : left.task r past = ⟨queries, .ok a⟩)
    (hright : right.task r (past ++ queries) = ⟨later, .ok b⟩) :
    (marksOf r past (.binary left op right)).asked [] = true ↔ compareNatively? c a b = none := by
  rw [marksOf_asked_iff, finds_nil_iff]
  constructor
  · rintro ⟨left', op', right', c', queries', a', later', b', heq, hc', hleft', hright', hnone⟩
    cases heq
    cases hc.symm.trans hc'
    cases hleft.symm.trans hleft'
    cases hright.symm.trans hright'
    exact hnone
  · intro hnone
    exact ⟨left, op, right, c, queries, a, later, b, rfl, hc, hleft, hright, hnone⟩

end Marks

/-! ## Traces -/

/-- The queries of a run are a beginning of these events, and all of them if it has a value. -/
def Traces {α : Type} (run : Run α) (events : List Event) : Prop :=
  run.queries.map Query.event <+: events ∧
    ∀ a, run.result = .ok a → run.queries.map Query.event = events

section Traces

variable {α β : Type} {past : List Query} {es fs : List Event}

theorem traces_error {queries : List Query} {e : Error}
    (h : queries.map Query.event <+: es) : Traces (⟨queries, .error e⟩ : Run α) es :=
  ⟨h, fun _ ha => by cases ha⟩

theorem traces_ofResult (past : List Query) (result : Except Error α) :
    Traces (Task.ofResult result past) [] :=
  ⟨List.nil_prefix, fun _ _ => rfl⟩

theorem traces_andThen {first : Task α} {next : α → Task β} (hfirst : Traces (first past) es)
    (hnext : ∀ queries a, first past = ⟨queries, .ok a⟩ → Traces (next a (past ++ queries)) fs) :
    Traces (first.andThen next past) (es ++ fs) := by
  rcases h : first past with ⟨queries, err | a⟩
  · rw [Task.andThen_error h]
    rw [h] at hfirst
    exact traces_error (hfirst.1.trans (List.prefix_append es fs))
  · obtain ⟨hbegin, hall⟩ := hnext queries a h
    have heq : queries.map Query.event = es := by
      rw [h] at hfirst
      exact hfirst.2 a rfl
    rw [Task.andThen_ok h]
    constructor
    · simp only [List.map_append, heq]
      exact (List.prefix_append_right_inj es).mpr hbegin
    · intro b hb
      simp only [List.map_append, heq, hall b hb]

/-- What comes next asks nothing. -/
theorem traces_andThen_ofResult {first : Task α} {next : α → Except Error β}
    (hfirst : Traces (first past) es) :
    Traces (first.andThen (fun a => .ofResult (next a)) past) es := by
  have hall : Traces (first.andThen (fun a => .ofResult (next a)) past) (es ++ []) :=
    traces_andThen hfirst fun _ a _ => traces_ofResult _ (next a)
  rwa [List.append_nil] at hall

theorem traces_truth {operand : Task Value} (side : Side) (op : Operator)
    (h : Traces (operand past) es) : Traces (operand.truth side op past) es :=
  traces_andThen_ofResult h

end Traces

/-! ## Every run is explained -/

/-- Whatever was asked before, the marks of the run tell its queries. -/
def Explained (r : Resolvers) (e : Expr) : Prop :=
  ∀ past, Traces (e.task r past) (e.events (marksOf r past e))

section Comparisons

variable {r : Resolvers} {op : Operator} {c : Comparison} {a b : Value} {past : List Query}

theorem traces_applyBinary_none (h : op.comparison? = none) :
    Traces (applyBinary r op a b past) [] := by
  cases op <;> first | exact traces_ofResult past _ | cases h

theorem applyBinary_of_comparison (h : op.comparison? = some c) : applyBinary r op a b =
    (compareValues r c a b).andThen fun t => .pure (.bool (op.verdict t)) := by
  cases op <;> cases h <;> rfl

/-- A comparison is asked of the surroundings where no built-in rule decides it. -/
theorem traces_applyBinary (h : op.comparison? = some c) {asked : Bool}
    (hasked : asked = true ↔ compareNatively? c a b = none) :
    Traces (applyBinary r op a b past) (if asked then [.comparison c] else []) := by
  rw [applyBinary_of_comparison h, compareValues]
  refine traces_andThen_ofResult ?_
  cases hnative : compareNatively? c a b with
  | none =>
    rw [if_pos (hasked.mpr hnative)]
    exact ⟨List.prefix_refl _, fun _ _ => rfl⟩
  | some result =>
    have hnot : ¬ asked = true := fun h => by
      rw [hasked.mp h] at hnative
      cases hnative
    rw [if_neg hnot]
    exact traces_ofResult past result

theorem comparison_of_decider {decider : Bool} (h : op.decider? = some decider) :
    op.comparison? = none := by
  cases op <;> first | rfl | cases h

end Comparisons

section Nodes

variable {r : Resolvers}

theorem explained_index {name : String} {i : Expr} (ih : Explained r i) :
    Explained r (.index name i) := by
  intro past
  rw [Expr.task]
  have hask : Traces (r.askVar name past) [.var name] := ⟨List.prefix_refl _, fun _ _ => rfl⟩
  refine traces_andThen hask fun queries array harray => ?_
  cases hitems : array.sequence? with
  | none => exact traces_error List.nil_prefix
  | some items =>
    obtain ⟨rfl, hvar⟩ := Run.mk.inj harray
    rw [marksOf_below (.index hvar hitems)]
    exact traces_andThen_ofResult (ih _)

/-- The arguments of a call, where the marks are known on those that are reached. -/
theorem explained_args {args : List Expr} (ih : ∀ arg ∈ args, Explained r arg)
    {past : List Query} {ms : Nat → Marks}
    (hms : ∀ k arg queries vs, args[k]? = some arg →
      Expr.taskAll r (args.take k) past = ⟨queries, .ok vs⟩ →
      ms k = marksOf r (past ++ queries) arg) :
    Traces (Expr.taskAll r args past) (Expr.eventsAll args ms) := by
  induction args generalizing past ms with
  | nil => exact traces_ofResult past _
  | cons arg rest ihrest =>
    rw [Expr.taskAll, Expr.eventsAll]
    have hfirst : ms 0 = marksOf r past arg := by
      have hzero := hms 0 arg [] [] rfl rfl
      rwa [List.append_nil] at hzero
    rw [hfirst]
    refine traces_andThen (ih arg (by simp) past) fun queries v hv => ?_
    refine traces_andThen_ofResult (ihrest (fun a ha => ih a (by simp [ha]))
      fun k a later vs hk htake => ?_)
    rw [List.append_assoc]
    exact hms (k + 1) a _ _ hk (taskAll_take_succ hv htake)

theorem explained_call {function : String} {args : List Expr}
    (ih : ∀ arg ∈ args, Explained r arg) : Explained r (.call function args) := by
  intro past
  rw [Expr.task]
  refine traces_andThen (explained_args ih fun k arg queries vs hk htake => ?_)
    fun _ _ _ => ⟨List.prefix_refl _, fun _ _ => rfl⟩
  exact marksOf_below (.argument hk htake)

theorem explained_unary {op : Operator} {operand : Expr} (ih : Explained r operand) :
    Explained r (.unary op operand) := by
  intro past
  rw [Expr.task, Expr.events, marksOf_below .operand]
  exact traces_andThen_ofResult (ih past)

theorem explained_logical {left right : Expr} {op : Operator} {decider : Bool}
    (hop : op.decider? = some decider) (ihl : Explained r left) (ihr : Explained r right) :
    Explained r (.binary left op right) := by
  intro past
  rw [Expr.task_logical r left right hop, Expr.events, comparison_of_decider hop, List.append_nil,
    marksOf_below .left]
  refine traces_andThen (traces_truth .left op (ihl past)) fun queries a htruth => ?_
  obtain ⟨v, hleft, hv⟩ := truth_ok htruth
  by_cases ha : a = decider
  · rw [if_pos ha, if_pos ((skipped_iff hop hleft hv).mpr ha)]
    exact traces_ofResult _ _
  · rw [if_neg ha, if_neg ((skipped_iff hop hleft hv).not.mpr ha),
      marksOf_below (.right_undecided hop hleft hv ha)]
    exact traces_andThen_ofResult (traces_truth .right op (ihr _))

theorem explained_binary {left right : Expr} {op : Operator} (hop : op.decider? = none)
    (ihl : Explained r left) (ihr : Explained r right) : Explained r (.binary left op right) := by
  intro past
  rw [Expr.task_binary r left right hop, Expr.events, not_skipped hop, if_neg Bool.false_ne_true,
    List.append_assoc, marksOf_below .left]
  refine traces_andThen (ihl past) fun queries a hleft => ?_
  rw [marksOf_below (.right_always hop hleft)]
  refine traces_andThen (ihr _) fun later b hright => ?_
  cases hc : op.comparison? with
  | none => exact traces_applyBinary_none hc
  | some c => exact traces_applyBinary hc (asked_iff hc hleft hright)

end Nodes

theorem task_explained (r : Resolvers) (e : Expr) : Explained r e := by
  induction e with
  | literal value => exact fun past => traces_ofResult past _
  | var name => exact fun past => ⟨List.prefix_refl _, fun _ _ => rfl⟩
  | index name i ih => exact explained_index ih
  | call function args ih => exact explained_call ih
  | unary op operand ih => exact explained_unary ih
  | binary left op right ihl ihr =>
    cases hop : op.decider? with
    | some decider => exact explained_logical hop ihl ihr
    | none => exact explained_binary hop ihl ihr

/-- The queries of an evaluation are a beginning of the events of the expression, less the right
operands of those `&&` and `||` nodes that the run reaches and that their left operands decide, and
with an event of a comparison just where the run reaches two values that no built-in rule compares.
They are all of these events if there is a result, and an evaluation that reaches an error ends with
it: the queries up to there are all that are made. -/
theorem evaluate_queries (r : Resolvers) (e : Expr) :
    (∃ m : Marks,
      (∀ path, m.skipped path = true ↔ Finds r (Decided r) [] e path) ∧
      (∀ path, m.asked path = true ↔ Finds r (Consults r) [] e path) ∧
      (e.evaluate r).queries.map Query.event <+: e.events m ∧
      (∀ v, (e.evaluate r).result = .ok v →
        (e.evaluate r).queries.map Query.event = e.events m)) ∧
    (∀ path past e' queries err, Reaches r [] e path past e' →
      e'.task r past = ⟨queries, .error err⟩ →
      e.evaluate r = ⟨past ++ queries, .error err⟩) := by
  constructor
  · obtain ⟨hbegin, hall⟩ := task_explained r e []
    exact ⟨marksOf r [] e, fun _ => marksOf_skipped_iff, fun _ => marksOf_asked_iff, hbegin, hall⟩
  · intro path past e' queries err hreach herr
    obtain ⟨before, rfl, hrun⟩ := reaches_error hreach herr
    exact hrun

end Formula
