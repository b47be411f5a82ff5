import Formula.Proofs.Errors.Evaluation

/-!
# Formula.Proofs.Evaluation.Typing

Types for the scalar part of the language: numbers, strings and truth values, with all operators but
the bitwise ones, and without calls and indexing. A well-typed expression has a value of its type,
or ends at an operator that has no result on the doubles it was given (`task_typed`). Neither is a
value ever found unfit for its use, nor are the surroundings asked for a comparison
(`evaluate_well_typed`).
-/

namespace Formula

/-! ## Types -/

inductive ScalarType where
  | number
  | string
  | bool
deriving DecidableEq, Repr

/-- The native values of a type. The numbers are doubles. -/
inductive ScalarType.Holds : ScalarType → Value → Prop where
  | number (x : Double) : Holds .number (.double x)
  | string (s : String) : Holds .string (.string s)
  | bool (b : Bool) : Holds .bool (.bool b)

def Literal.type : Literal → ScalarType
  | number _ => .number
  | string _ => .string
  | boolean _ => .bool

/-- The types of the operands that a binary operator takes, and the type of its result. -/
inductive Operator.Takes : Operator → ScalarType → ScalarType → ScalarType → Prop where
  | arithmetic {op : Operator} : op ∈ [.minus, .multiply, .divide, .modulo] →
      Takes op .number .number .number
  | sum : Takes .plus .number .number .number
  | concatenation {a b : ScalarType} :
      (a, b) ∈ [(.string, .string), (.string, .number), (.number, .string)] →
      Takes .plus a b .string
  | comparison {op : Operator} {a : ScalarType} :
      op ∈ [.less, .lessOrEqual, .greater, .greaterOrEqual, .equal, .notEqual] →
      a ∈ [.number, .string] → Takes op a a .bool
  | equality {op : Operator} : op ∈ [.equal, .notEqual] → Takes op .bool .bool .bool
  | logical {op : Operator} : op ∈ [.and, .or] → Takes op .bool .bool .bool

/-- An expression that is well typed where names have the types `Γ`. -/
inductive Expr.HasType (Γ : String → Option ScalarType) : Expr → ScalarType → Prop where
  | literal (value : Literal) : HasType Γ (.literal value) value.type
  | var {name : String} {a : ScalarType} : Γ name = some a → HasType Γ (.var name) a
  | not {e : Expr} : HasType Γ e .bool → HasType Γ (.unary .not e) .bool
  | binary {left right : Expr} {op : Operator} {a b c : ScalarType} :
      HasType Γ left a → HasType Γ right b → op.Takes a b c → HasType Γ (.binary left op right) c

/-- The surroundings have a value of the right type for every name that has a type. -/
def Resolvers.Fit (Γ : String → Option ScalarType) (r : Resolvers) : Prop :=
  ∀ past name a, Γ name = some a → ∃ v, r.var past name = .ok v ∧ a.Holds v

/-! ## Operators without a result -/

/-- Doubles on which a binary operator has no result, and the error that says so. -/
inductive Operator.Undefined : Operator → Double → Double → Error → Prop where
  | division {x y : Double} : y.isZero = true →
      Undefined .divide x y (.invalidOperation .divisionByZero)
  | modulo {x y : Double} : y.isZero = true →
      Undefined .modulo x y (.invalidOperation .moduloByZero)
  | infinite (s : Bool) {y : Double} : y.isZero = false → y.isNaN = false →
      Undefined .modulo (.infinite s) y .domain

/-- A binary operator whose operands evaluate to doubles on which it has no result. -/
def HasNoResult (r : Resolvers) (err : Error) (past : List Query) (e : Expr) : Prop :=
  ∃ left op right queries x later y, e = .binary left op right ∧
    left.task r past = ⟨queries, .ok (.double x)⟩ ∧
    right.task r (past ++ queries) = ⟨later, .ok (.double y)⟩ ∧ op.Undefined x y err

/-- From the queries `past` on, the evaluation comes to such an operator, with this error. -/
def Ends (r : Resolvers) (past : List Query) (e : Expr) (err : Error) : Prop :=
  ∃ path, Finds r (HasNoResult r err) past e path

/-- A binary operation on the values of both operands has a value of the type, or no result. -/
def Performs (op : Operator) (left right : Value) (c : ScalarType) (run : Run Value) : Prop :=
  (∃ v, run = ⟨[], .ok v⟩ ∧ c.Holds v) ∨
    ∃ x y err, left = .double x ∧ right = .double y ∧ op.Undefined x y err ∧ run = ⟨[], .error err⟩

section Operators

variable {r : Resolvers} {past : List Query} {left right : Value} {op : Operator}

theorem divideDoubles_undefined (x y : Double) :
    (∃ z, divideDoubles x y = .ok z) ∨
      ∃ err, divideDoubles x y = .error err ∧ Operator.Undefined .divide x y err := by
  rcases divideDoubles_cases x y with ⟨hzero, herr⟩ | hz
  · exact .inr ⟨_, herr, .division hzero⟩
  · exact .inl hz

theorem remainderOfDoubles_undefined (x y : Double) :
    (∃ z, remainderOfDoubles x y = .ok z) ∨
      ∃ err, remainderOfDoubles x y = .error err ∧ Operator.Undefined .modulo x y err := by
  rcases remainderOfDoubles_cases x y with ⟨hzero, herr⟩ | ⟨hzero, hnan, ⟨s, rfl⟩, herr⟩ | hz
  · exact .inr ⟨_, herr, .modulo hzero⟩
  · exact .inr ⟨_, herr, .infinite s hzero hnan⟩
  · exact .inl hz

theorem performs_value {v : Value} {c : ScalarType} (h : c.Holds v) :
    Performs op left right c ⟨[], .ok v⟩ :=
  .inl ⟨v, rfl, h⟩

/-- A rule on doubles has a result where the operator is defined. -/
theorem performs_onDoubles {f : Double → Double → Except Error Double} {x y : Double}
    (hf : (∃ z, f x y = .ok z) ∨ ∃ err, f x y = .error err ∧ op.Undefined x y err) :
    Performs op (.double x) (.double y) .number ⟨[], onDoubles f (.double x) (.double y)⟩ := by
  simp only [onDoubles, Value.toDouble]
  rcases hf with ⟨z, hz⟩ | ⟨err, herr, hundefined⟩
  · rw [hz]
    exact performs_value (.number z)
  · rw [herr]
    exact .inr ⟨x, y, err, rfl, rfl, hundefined, rfl⟩

theorem performs_arithmetic (hop : op ∈ [.minus, .multiply, .divide, .modulo]) (x y : Double) :
    Performs op (.double x) (.double y) .number (applyBinary r op (.double x) (.double y) past) := by
  simp only [List.mem_cons, List.not_mem_nil, or_false] at hop
  rcases hop with rfl | rfl | rfl | rfl
  · exact performs_onDoubles (.inl ⟨_, rfl⟩)
  · exact performs_onDoubles (.inl ⟨_, rfl⟩)
  · exact performs_onDoubles (divideDoubles_undefined x y)
  · exact performs_onDoubles (remainderOfDoubles_undefined x y)

/-- What a built-in rule compares is not asked of the surroundings. -/
theorem performs_comparison {k : Comparison} {b : Bool} (hop : op.comparison? = some k)
    (hnative : compareNatively? k left right = some (.ok b)) :
    Performs op left right .bool (applyBinary r op left right past) := by
  rw [applyBinary_of_comparison hop, compareValues, hnative]
  exact performs_value (.bool (op.verdict b))

theorem comparison_of_mem
    (h : op ∈ [.less, .lessOrEqual, .greater, .greaterOrEqual, .equal, .notEqual]) :
    ∃ k, op.comparison? = some k := by
  simp only [List.mem_cons, List.not_mem_nil, or_false] at h
  rcases h with rfl | rfl | rfl | rfl | rfl | rfl <;> exact ⟨_, rfl⟩

theorem compareNatively?_doubles (k : Comparison) (x y : Double) :
    ∃ b, compareNatively? k (.double x) (.double y) = some (.ok b) := by
  cases k <;> exact ⟨_, rfl⟩

theorem compareNatively?_strings (k : Comparison) (s t : String) :
    ∃ b, compareNatively? k (.string s) (.string t) = some (.ok b) := by
  cases k <;> exact ⟨_, rfl⟩

/-- An operator that evaluates both operands, on values of the types that it takes. -/
theorem applyBinary_performs {a b c : ScalarType} (htakes : op.Takes a b c)
    (hop : op.decider? = none) (hl : a.Holds left) (hr : b.Holds right) :
    Performs op left right c (applyBinary r op left right past) := by
  cases htakes with
  | arithmetic hmem =>
    cases hl
    cases hr
    exact performs_arithmetic hmem _ _
  | sum =>
    cases hl
    cases hr
    exact performs_value (.number _)
  | concatenation hmem =>
    simp only [List.mem_cons, List.not_mem_nil, or_false, Prod.mk.injEq] at hmem
    rcases hmem with ⟨rfl, rfl⟩ | ⟨rfl, rfl⟩ | ⟨rfl, rfl⟩ <;> cases hl <;> cases hr <;>
      exact performs_value (.string _)
  | comparison hmem ha =>
    obtain ⟨k, hk⟩ := comparison_of_mem hmem
    simp only [List.mem_cons, List.not_mem_nil, or_false] at ha
    rcases ha with rfl | rfl
    · cases hl with | number x => cases hr with | number y =>
      obtain ⟨b, hb⟩ := compareNatively?_doubles k x y
      exact performs_comparison hk hb
    · cases hl with | string s => cases hr with | string t =>
      obtain ⟨b, hb⟩ := compareNatively?_strings k s t
      exact performs_comparison hk hb
  | equality hmem =>
    have hk : op.comparison? = some .equal := by
      simp only [List.mem_cons, List.not_mem_nil, or_false] at hmem
      rcases hmem with rfl | rfl <;> rfl
    cases hl
    cases hr
    exact performs_comparison hk rfl
  | logical hmem =>
    simp only [List.mem_cons, List.not_mem_nil, or_false] at hmem
    rcases hmem with rfl | rfl <;> cases hop

theorem decider_of_takes {a b c : ScalarType} {decider : Bool} (htakes : op.Takes a b c)
    (hop : op.decider? = some decider) : a = .bool ∧ b = .bool ∧ c = .bool := by
  cases op <;> cases hop <;> cases htakes <;> simp_all

end Operators

/-! ## Evaluation -/

/-- A run that asks for variables only, and ends with a value that `Q` holds of or an error that `P`
holds of. -/
structure Run.LooksUp {α : Type} (P : Error → Prop) (Q : α → Prop) (run : Run α) : Prop where
  queries : ∀ q ∈ run.queries, ∃ name, q = .var name
  result : Yields P Q run.result

section LooksUp

variable {α β : Type} {P : Error → Prop} {Q : α → Prop} {R : β → Prop} {r : Resolvers}
  {past later : List Query} {e e' : Expr} {k : Nat}

theorem looksUp_andThen {first : Task α} {next : α → Task β} (h : (first past).LooksUp P Q)
    (hnext : ∀ queries a, first past = ⟨queries, .ok a⟩ → Q a →
      (next a (past ++ queries)).LooksUp P R) : (first.andThen next past).LooksUp P R := by
  refine ⟨?_, yields_andThen h.result fun queries a hrun ha => (hnext queries a hrun ha).result⟩
  rcases hrun : first past with ⟨queries, err | a⟩
  · rw [Task.andThen_error hrun]
    simpa [hrun] using h.queries
  · rw [Task.andThen_ok hrun]
    have hfirst : ∀ q ∈ queries, ∃ name, q = .var name := by simpa [hrun] using h.queries
    have ha : Q a := h.result.value (by rw [hrun])
    intro q hq
    rcases List.mem_append.mp hq with hq | hq
    · exact hfirst q hq
    · exact (hnext queries a hrun ha).queries q hq

theorem looksUp_result {x : Except Error α} (h : Yields P Q x) :
    Run.LooksUp P Q ⟨[], x⟩ :=
  ⟨nofun, h⟩

/-- Where an operand ends so, the whole does. -/
theorem Run.LooksUp.of_operand {run : Run α} (hstep : Descends r past e k later e')
    (h : run.LooksUp (Ends r later e') Q) : run.LooksUp (Ends r past e) Q := by
  refine ⟨h.queries, h.result.mono fun err => ?_⟩
  rintro ⟨path, hfinds⟩
  exact ⟨k :: path, hfinds.down hstep⟩

theorem looksUp_truth {operand : Task Value} (side : Side) (op : Operator)
    (h : (operand later).LooksUp (Ends r past e) ScalarType.bool.Holds) :
    (operand.truth side op later).LooksUp (Ends r past e) fun _ => True := by
  refine looksUp_andThen h fun _ v _ hv => looksUp_result ?_
  cases hv
  trivial

end LooksUp

/-- Whatever was asked before, the expression has a value of the type or ends so. -/
def Typed (r : Resolvers) (e : Expr) (a : ScalarType) : Prop :=
  ∀ past, (e.task r past).LooksUp (Ends r past e) a.Holds

section Nodes

variable {r : Resolvers} {left right : Expr} {op : Operator} {a b c : ScalarType}

theorem typed_not {e : Expr} (ih : Typed r e .bool) : Typed r (.unary .not e) .bool := by
  intro past
  rw [Expr.task]
  refine looksUp_andThen ((ih past).of_operand .operand) fun _ v _ hv => looksUp_result ?_
  cases hv
  exact .bool _

theorem typed_logical {decider : Bool} (hop : op.decider? = some decider)
    (ihl : Typed r left .bool) (ihr : Typed r right .bool) :
    Typed r (.binary left op right) .bool := by
  intro past
  rw [Expr.task_logical r left right hop]
  refine looksUp_andThen (looksUp_truth .left op ((ihl past).of_operand .left))
    fun queries x htruth _ => ?_
  by_cases hx : x = decider
  · rw [if_pos hx]
    exact looksUp_result (.bool decider)
  · rw [if_neg hx]
    obtain ⟨v, hv, hlogical⟩ := truth_ok htruth
    have hstep : Descends r past (.binary left op right) 1 (past ++ queries) right :=
      .right_undecided hop hv hlogical hx
    refine looksUp_andThen (looksUp_truth .right op ((ihr _).of_operand hstep)) fun _ y _ _ => ?_
    exact looksUp_result (.bool y)

theorem typed_binary (htakes : op.Takes a b c) (hop : op.decider? = none)
    (ihl : Typed r left a) (ihr : Typed r right b) : Typed r (.binary left op right) c := by
  intro past
  rw [Expr.task_binary r left right hop]
  refine looksUp_andThen ((ihl past).of_operand .left) fun queries v hleft hv => ?_
  have hstep : Descends r past (.binary left op right) 1 (past ++ queries) right :=
    .right_always hop hleft
  refine looksUp_andThen ((ihr _).of_operand hstep) fun later w hright hw => ?_
  rcases applyBinary_performs htakes hop hv hw with
    ⟨u, hrun, hu⟩ | ⟨x, y, err, rfl, rfl, hundefined, hrun⟩
  · rw [hrun]
    exact looksUp_result hu
  · rw [hrun]
    exact looksUp_result ⟨[], past, _, .here, left, op, right, queries, x, later, y, rfl, hleft,
      hright, hundefined⟩

theorem error_of_finds {err : Error} {past : List Query} {e : Expr} {path : Path}
    (h : Finds r (HasNoResult r err) past e path) :
    err = .invalidOperation .divisionByZero ∨ err = .invalidOperation .moduloByZero ∨
      err = .domain := by
  obtain ⟨_, _, _, _, _, _, _, _, _, _, _, _, _, hundefined⟩ := h
  cases hundefined <;> simp

end Nodes

theorem task_typed {Γ : String → Option ScalarType} {r : Resolvers} (hr : r.Fit Γ) {e : Expr}
    {a : ScalarType} (h : e.HasType Γ a) : Typed r e a := by
  induction h with
  | literal value =>
    intro past
    refine looksUp_result ?_
    cases value with
    | number x => exact .number x
    | string s => exact .string s
    | boolean b => exact .bool b
  | @var name a hname =>
    intro past
    obtain ⟨v, hv, hholds⟩ := hr past name a hname
    have hrun : (Expr.var name).task r past = ⟨[.var name], .ok v⟩ := by
      rw [Expr.task, Resolvers.askVar, hv]
    rw [hrun]
    exact ⟨by simp, hholds⟩
  | not _ ih => exact typed_not ih
  | @binary left right op a b c _ _ htakes ihl ihr =>
    cases hop : op.decider? with
    | some decider =>
      obtain ⟨rfl, rfl, rfl⟩ := decider_of_takes htakes hop
      exact typed_logical hop ihl ihr
    | none => exact typed_binary htakes hop ihl ihr

/-- A well-typed expression, in surroundings that fit the types of its variables, has a native value
of its type, or it comes to a division or remainder by zero, or to the remainder of an infinite
number, and ends with the error that says so. These are its only errors, so it ends with no mismatch
of types, and it makes no queries but for variables. -/
theorem evaluate_well_typed {Γ : String → Option ScalarType} {r : Resolvers} (hr : r.Fit Γ)
    {e : Expr} {a : ScalarType} (h : e.HasType Γ a) :
    ((∃ v, (e.evaluate r).result = .ok v ∧ a.Holds v) ∨
      ∃ err path, (e.evaluate r).result = .error err ∧ Finds r (HasNoResult r err) [] e path ∧
        (err = .invalidOperation .divisionByZero ∨ err = .invalidOperation .moduloByZero ∨
          err = .domain)) ∧
    (∀ cause, (e.evaluate r).result ≠ .error (.typeMismatch cause)) ∧
    (∀ q ∈ (e.evaluate r).queries, ∃ name, q = .var name) := by
  obtain ⟨hqueries, hresult⟩ := task_typed hr h []
  have herror : ∀ err, (e.evaluate r).result = .error err →
      ∃ path, Finds r (HasNoResult r err) [] e path ∧
        (err = .invalidOperation .divisionByZero ∨ err = .invalidOperation .moduloByZero ∨
          err = .domain) := by
    intro err herr
    obtain ⟨path, hfinds⟩ := hresult.error herr
    exact ⟨path, hfinds, error_of_finds hfinds⟩
  refine ⟨?_, fun cause hmismatch => ?_, hqueries⟩
  · cases heval : (e.evaluate r).result with
    | ok v => exact .inl ⟨v, rfl, hresult.value heval⟩
    | error err =>
      obtain ⟨path, hfinds, hcause⟩ := herror err heval
      exact .inr ⟨err, path, rfl, hfinds, hcause⟩
  · obtain ⟨_, _, hcause⟩ := herror _ hmismatch
    simp at hcause

/-- With zero in a variable, `#n / #n < #n || #s == 'x'` is well typed and comes to a division by
zero. -/
theorem evaluate_well_typed_zero_divisor :
    let Γ : String → Option ScalarType := fun name =>
      if name = "#n" then some .number else if name = "#s" then some .string else none
    let r : Resolvers := { var := fun _ name =>
      if name = "#n" then .ok (.double .zero) else .ok (.string "x") }
    let e : Expr := .binary
      (.binary (.binary (.var "#n") .divide (.var "#n")) .less (.var "#n")) .or
      (.binary (.var "#s") .equal (.literal (.string "x")))
    r.Fit Γ ∧ e.HasType Γ .bool ∧
      (e.evaluate r).result = .error (.invalidOperation .divisionByZero) ∧
      ∃ path, Finds r (HasNoResult r (.invalidOperation .divisionByZero)) [] e path := by
  intro Γ r e
  have hfit : r.Fit Γ := by
    intro past name a hname
    simp only [Γ, r] at hname ⊢
    split at hname
    · rename_i hn
      cases hname
      exact ⟨_, if_pos hn, .number _⟩
    · rename_i hn
      split at hname
      · cases hname
        exact ⟨_, if_neg hn, .string _⟩
      · cases hname
  have hquotient : Expr.HasType Γ (.binary (.var "#n") .divide (.var "#n")) .number :=
    .binary (.var rfl) (.var rfl) (.arithmetic (by decide))
  have htype : e.HasType Γ .bool :=
    .binary (.binary hquotient (.var rfl) (.comparison (by decide) (by decide)))
      (.binary (.var rfl) (.literal (.string "x")) (.comparison (by decide) (by decide)))
      (.logical (by decide))
  have hresult : (e.evaluate r).result = .error (.invalidOperation .divisionByZero) := rfl
  refine ⟨hfit, htype, hresult, ?_⟩
  rcases (evaluate_well_typed hfit htype).1 with ⟨v, hv, _⟩ | ⟨err, path, herr, hfinds, _⟩
  · cases hresult.symm.trans hv
  · cases hresult.symm.trans herr
    exact ⟨path, hfinds⟩

end Formula
