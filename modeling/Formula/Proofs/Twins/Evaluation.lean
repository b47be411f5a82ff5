import Formula.Engine
import Formula.Proofs.Twins.Operation
import Formula.Surroundings.Basic

/-!
# Formula.Proofs.Twins.Evaluation

Two evaluations of one expression in surroundings that answer alike. They ask the same queries up to
twins, in the same order, and end with twins or with errors that are alike (`task_twins`): no
expression tells an integer from the double of the same value. A result type other than the one of
all values makes the results equal (`evaluate_twins`).
-/

namespace Formula

/-- The same query, up to twins. -/
inductive Query.Twin : Query → Query → Prop where
  | var (name : String) : Twin (.var name) (.var name)
  | function (name : String) {args args' : List Value} :
      List.Forall₂ Value.Twin args args' → Twin (.function name args) (.function name args')
  | comparison (c : Comparison) {left left' right right' : Value} :
      left.Twin left' → right.Twin right' →
      Twin (.comparison left c right) (.comparison left' c right')

/-- Runs that ask the same up to twins, and whose results agree. -/
structure Run.Agree {α β : Type} (R : α → β → Prop) (run : Run α) (run' : Run β) : Prop where
  queries : List.Forall₂ Query.Twin run.queries run'.queries
  result : Formula.Agree R run.result run'.result

/-- Tasks whose runs agree after queries that are the same up to twins. -/
def Task.Agree {α β : Type} (R : α → β → Prop) (task : Task α) (task' : Task β) : Prop :=
  ∀ past past', List.Forall₂ Query.Twin past past' → Run.Agree R (task past) (task' past')

namespace Task

variable {α β γ δ : Type} {R : α → β → Prop} {S : γ → δ → Prop}

theorem agree_ofResult {x : Except Error α} {x' : Except Error β} (h : Formula.Agree R x x') :
    Task.Agree R (ofResult x) (ofResult x') :=
  fun _ _ _ => ⟨.nil, h⟩

theorem agree_pure {a : α} {b : β} (h : R a b) : Task.Agree R (Task.pure a) (Task.pure b) :=
  agree_ofResult h

theorem agree_fail (e : Error) : Task.Agree R (Task.fail e) (Task.fail e) :=
  agree_ofResult (.refl e)

theorem Agree.andThen {first : Task α} {first' : Task β} {next : α → Task γ} {next' : β → Task δ}
    (h : Task.Agree R first first') (hnext : ∀ a b, R a b → Task.Agree S (next a) (next' b)) :
    Task.Agree S (first.andThen next) (first'.andThen next') := by
  intro past past' hpast
  obtain ⟨hqueries, hresult⟩ := h past past' hpast
  rw [Task.andThen, Task.andThen]
  generalize first past = run at hqueries hresult
  generalize first' past' = run' at hqueries hresult
  obtain ⟨queries, result⟩ := run
  obtain ⟨queries', result'⟩ := run'
  dsimp only at hqueries hresult
  refine hresult.elim (fun a b hab => ?_) fun e e' halike => ⟨hqueries, halike⟩
  obtain ⟨hlater, hlast⟩ := hnext a b hab _ _ (List.rel_append hpast hqueries)
  exact ⟨List.rel_append hqueries hlater, hlast⟩

end Task

/-- Surroundings that give answers which agree to queries that are the same up to twins. -/
structure Resolvers.Agree (r r' : Resolvers) : Prop where
  var : ∀ past past' name, List.Forall₂ Query.Twin past past' →
    Formula.Agree Value.Twin (r.var past name) (r'.var past' name)
  function : ∀ past past' name args args', List.Forall₂ Query.Twin past past' →
    List.Forall₂ Value.Twin args args' →
    Formula.Agree Value.Twin (r.function past name args) (r'.function past' name args')
  compare : ∀ past past' left left' right right' c, List.Forall₂ Query.Twin past past' →
    left.Twin left' → right.Twin right' →
    Formula.Agree Eq (r.compare past left right c) (r'.compare past' left' right' c)

section Evaluation

variable {r r' : Resolvers} {left left' right right' : Value}

theorem askVar_twins (hr : r.Agree r') (name : String) :
    Task.Agree Value.Twin (r.askVar name) (r'.askVar name) :=
  fun past past' hpast => ⟨.cons (.var name) .nil, hr.var past past' name hpast⟩

theorem callFunction_twins (hr : r.Agree r') (name : String) {args args' : List Value}
    (hargs : List.Forall₂ Value.Twin args args') :
    Task.Agree Value.Twin (r.callFunction name args) (r'.callFunction name args') :=
  fun past past' hpast =>
    ⟨.cons (.function name hargs) .nil, hr.function past past' name args args' hpast hargs⟩

theorem compareValues_twins (hr : r.Agree r') (c : Comparison) (hl : left.Twin left')
    (hright : right.Twin right') :
    Task.Agree Eq (compareValues r c left right) (compareValues r' c left' right') := by
  have hnative := compareNatively?_twins c hl hright
  rw [compareValues, compareValues]
  generalize compareNatively? c left right = result at hnative
  generalize compareNatively? c left' right' = result' at hnative
  cases hnative with
  | none =>
    exact fun past past' hpast =>
      ⟨.cons (.comparison c hl hright) .nil, hr.compare past past' _ _ _ _ c hpast hl hright⟩
  | some h => exact Task.agree_ofResult h

theorem applyBinary_twins (hr : r.Agree r') (op : Operator) (hl : left.Twin left')
    (hright : right.Twin right') :
    Task.Agree Value.Twin (applyBinary r op left right) (applyBinary r' op left' right') := by
  have hcompare : ∀ c (f : Bool → Bool), Task.Agree Value.Twin
      ((compareValues r c left right).andThen fun b => .pure (.bool (f b)))
      ((compareValues r' c left' right').andThen fun b => .pure (.bool (f b))) := fun c f =>
    (compareValues_twins hr c hl hright).andThen fun a b hab => by
      rw [hab]
      exact Task.agree_pure (.refl _)
  cases op with
  | plus => exact Task.agree_ofResult (addValues_twins hl hright).twins
  | minus | multiply | divide | modulo =>
    exact Task.agree_ofResult (onDoubles_twins _ hl hright).twins
  | bitwiseAnd | bitwiseOr => exact Task.agree_ofResult (onInts_twins _ hl hright).twins
  | notEqual => exact hcompare .equal Bool.not
  | equal => exact hcompare .equal id
  | greater => exact hcompare .greater id
  | greaterOrEqual => exact hcompare .greaterOrEqual id
  | less => exact hcompare .less id
  | lessOrEqual => exact hcompare .lessOrEqual id
  | and | or | not => exact Task.agree_fail _

theorem truth_twins {operand operand' : Task Value} (side : Side) (op : Operator)
    (h : Task.Agree Value.Twin operand operand') :
    Task.Agree Eq (operand.truth side op) (operand'.truth side op) :=
  h.andThen fun _ _ htwin => Task.agree_ofResult (logicalOperand_twins side op htwin)

theorem taskAll_twins {args : List Expr}
    (ih : ∀ arg ∈ args, Task.Agree Value.Twin (arg.task r) (arg.task r')) :
    Task.Agree (List.Forall₂ Value.Twin) (Expr.taskAll r args) (Expr.taskAll r' args) := by
  induction args with
  | nil => exact Task.agree_pure .nil
  | cons arg rest ihrest =>
    rw [Expr.taskAll, Expr.taskAll]
    refine (ih arg List.mem_cons_self).andThen fun v v' hv => ?_
    refine (ihrest fun a ha => ih a (List.mem_cons_of_mem arg ha)).andThen fun vs vs' hvs => ?_
    exact Task.agree_pure (.cons hv hvs)

theorem logical_twins {e e' : Expr} {op : Operator} {decider : Bool}
    (hop : op.decider? = some decider) (ihl : Task.Agree Value.Twin (e.task r) (e.task r'))
    (ihr : Task.Agree Value.Twin (e'.task r) (e'.task r')) :
    Task.Agree Value.Twin ((Expr.binary e op e').task r) ((Expr.binary e op e').task r') := by
  rw [Expr.task_logical r e e' hop, Expr.task_logical r' e e' hop]
  refine (truth_twins .left op ihl).andThen ?_
  rintro a _ rfl
  split
  · exact Task.agree_pure (.refl _)
  · refine (truth_twins .right op ihr).andThen ?_
    rintro b _ rfl
    exact Task.agree_pure (.refl _)

/-- In surroundings that answer alike, an expression asks the same and gives twins. -/
theorem task_twins (hr : r.Agree r') (e : Expr) :
    Task.Agree Value.Twin (e.task r) (e.task r') := by
  induction e with
  | literal value => exact Task.agree_pure (.refl _)
  | var name => exact askVar_twins hr name
  | index name i ih =>
    rw [Expr.task, Expr.task]
    refine (askVar_twins hr name).andThen fun array array' harray => ?_
    have hitems := harray.sequence?
    generalize array.sequence? = items at hitems
    generalize array'.sequence? = items' at hitems
    cases hitems with
    | none => exact Task.agree_fail _
    | some hitems =>
      exact ih.andThen fun _ _ hplace => Task.agree_ofResult (elementAt_twins hitems hplace)
  | call function args ih =>
    rw [Expr.task, Expr.task]
    exact (taskAll_twins ih).andThen fun _ _ hargs => callFunction_twins hr function hargs
  | unary op operand ih =>
    rw [Expr.task, Expr.task]
    exact ih.andThen fun _ _ htwin => Task.agree_ofResult (applyUnary_twins op htwin).twins
  | binary e op e' ihl ihr =>
    cases hop : op.decider? with
    | some decider => exact logical_twins hop ihl ihr
    | none =>
      rw [Expr.task_binary r e e' hop, Expr.task_binary r' e e' hop]
      refine ihl.andThen fun a a' hl => ihr.andThen fun b b' hright => ?_
      exact applyBinary_twins hr op hl hright

/-- What is asked and what comes of a source text, for a result type given by its name. -/
theorem report_twins (hr : r.Agree r') (options : Options) (name source : String) :
    List.Forall₂ Query.Twin (evaluate options r (.named name) source).queries
      (evaluate options r' (.named name) source).queries ∧
    Agree (fun v v' => v.Twin v' ∧ (name ≠ "any" → v = v'))
      (evaluate options r (.named name) source).result
      (evaluate options r' (.named name) source).result := by
  rw [evaluate, evaluate]
  rcases parseSource options source with ⟨records, err | e⟩
  · exact ⟨.nil, .refl err⟩
  · obtain ⟨hqueries, hresult⟩ := task_twins hr e [] [] .nil
    simp only [Expr.evaluate]
    generalize e.task r [] = run at hqueries hresult
    generalize e.task r' [] = run' at hqueries hresult
    obtain ⟨queries, result⟩ := run
    obtain ⟨queries', result'⟩ := run'
    dsimp only at hqueries hresult
    refine hresult.elim (fun v v' htwin => ?_) fun _ _ halike => ⟨hqueries, halike⟩
    simp only
    refine (coerce_twins name htwin).elim (fun w w' hw => ?_) fun _ _ halike => ⟨hqueries, halike⟩
    exact ⟨hqueries, hw⟩

end Evaluation

/-! ## Tables of variables -/

/-- Tables with twins at the same names give twins, or the same errors, at every name. -/
theorem variableValue_twins {table table' : VariableTable}
    (h : List.Forall₂ (fun entry entry' => entry.1 = entry'.1 ∧ Agree Value.Twin entry.2 entry'.2)
      table table') (name : String) :
    Agree Value.Twin (variableValue table name) (variableValue table' name) := by
  rw [variableValue, variableValue]
  induction h with
  | nil => exact .refl _
  | @cons entry entry' rest rest' hentry _ ih =>
    rw [Bindings.get?_cons, Bindings.get?_cons, hentry.1]
    by_cases hname : name = entry'.1
    · rw [if_pos hname, if_pos hname]
      exact hentry.2
    · rw [if_neg hname, if_neg hname]
      exact ih

theorem resolvers_twins {table table' : VariableTable} {functions : Option (Chain FunctionSource)}
    (htables : ∀ name, Agree Value.Twin (variableValue table name) (variableValue table' name))
    (hfunctions : functions = none ∨ functions = some (.source .library)) :
    (Surroundings.resolvers ⟨some table, functions, none⟩).Agree
      (Surroundings.resolvers ⟨some table', functions, none⟩) where
  var _ _ name _ := htables name
  function _ _ name _ _ _ hargs := by
    obtain rfl | rfl := hfunctions
    · exact .refl _
    · exact (Library.call_twins name hargs).twins
  compare _ _ _ _ _ _ _ _ hl hright := .incomparable hl hright

/-- With twins in the tables of variables, the library or no functions at all, and no comparator,
two evaluations of a source text ask for the same variables and functions, and give twins or errors
of one kind that are alike. Asked for any type but the one of all values they give equal results. -/
theorem evaluate_twins {table table' : VariableTable}
    {functions : Option (Chain FunctionSource)}
    (htables : ∀ name, Agree Value.Twin (variableValue table name) (variableValue table' name))
    (hfunctions : functions = none ∨ functions = some (.source .library))
    (options : Options) (name source : String) :
    let report := evaluate options (Surroundings.resolvers ⟨some table, functions, none⟩)
      (.named name) source
    let report' := evaluate options (Surroundings.resolvers ⟨some table', functions, none⟩)
      (.named name) source
    List.Forall₂ Query.Twin report.queries report'.queries ∧
    Agree (fun v v' => v.Twin v' ∧ (name ≠ "any" → v = v')) report.result report'.result ∧
    ∀ e e', report.result = .error e → report'.result = .error e' → e.kind? = e'.kind? := by
  intro report report'
  have hr := resolvers_twins htables hfunctions
  obtain ⟨hqueries, hresult⟩ := report_twins hr options name source
  refine ⟨hqueries, hresult, fun e e' he he' => ?_⟩
  rw [he, he'] at hresult
  exact Error.Alike.kind? hresult

/-- A double that is one picks the same item of a list as the integer. -/
theorem evaluate_twins_subscript :
    let table (i : Value) : VariableTable :=
      [("#a", .ok (.list [.string "u", .string "v"])), ("#i", .ok i)]
    let chosen (i : Value) : Except Error Value :=
      (evaluate .default (Surroundings.resolvers ⟨some (table i), some (.source .library), none⟩)
        (.named "str") "#a[#i]").result
    chosen (.int 1) = .ok (.string "v") ∧
      chosen (.double (Double.ofInt 1)) = .ok (.string "v") := by
  intro table chosen
  have hscan : scan "#a[#i]" = ⟨[⟨.var "#a", 0, "#a"⟩, ⟨.lbracket, 2, "["⟩, ⟨.var "#i", 3, "#i"⟩,
      ⟨.rbracket, 5, "]"⟩], none⟩ := by
    decide +kernel
  have hparse : parseSource .default "#a[#i]" =
      ⟨[parsedSource "#a[#i]" (.index "#a" (.var "#i"))], .ok (.index "#a" (.var "#i"))⟩ := by
    rw [parseSource, tokenize, hscan]
    rfl
  have hint : chosen (.int 1) = .ok (.string "v") := by
    simp only [chosen]
    rw [evaluate, hparse]
    rfl
  have hone : (Double.ofInt 1).Represents 1 := by decide +kernel
  have htables : ∀ name, Agree Value.Twin (variableValue (table (.int 1)) name)
      (variableValue (table (.double (Double.ofInt 1))) name) :=
    variableValue_twins (.cons ⟨rfl, .refl _⟩ (.cons ⟨rfl, .intDouble hone⟩ .nil))
  obtain ⟨_, hagree, _⟩ := evaluate_twins htables (.inr rfl) .default "str" "#a[#i]"
  refine ⟨hint, ?_⟩
  change Agree _ (chosen (.int 1)) (chosen (.double (Double.ofInt 1))) at hagree
  rw [hint] at hagree
  cases hdouble : chosen (.double (Double.ofInt 1)) with
  | error e =>
    rw [hdouble] at hagree
    cases hagree
  | ok w =>
    rw [hdouble] at hagree
    rw [hagree.2 (by decide)]

end Formula
