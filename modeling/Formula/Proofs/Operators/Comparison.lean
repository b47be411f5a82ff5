import Mathlib.Data.List.Lex
import Formula.Proofs.Conversion.Basic
import Formula.Proofs.Double.Order
import Formula.Proofs.Evaluation.Trace
import Formula.Proofs.Operators.Basic

/-!
# Formula.Proofs.Operators.Comparison

Which comparisons of values are built in (`Comparison.Native`), and which are asked of the
surroundings. Where the built-in comparisons are those of the places of values in a linear order
(`Places`), the comparison operators are one total order up to `==` (`Places.coherent`): so on
strings, which are ordered by their code points, and on values that convert to numbers.
-/

namespace Formula

/-! ## Orders -/

namespace Comparison

/-- What a comparison says of two things in a linear order. -/
def Relates {α : Type} [LinearOrder α] : Comparison → α → α → Prop
  | equal, p, q => p = q
  | greater, p, q => q < p
  | greaterOrEqual, p, q => q ≤ p
  | less, p, q => p < q
  | lessOrEqual, p, q => p ≤ q

theorem admits_iff {α : Type} [LinearOrder α] {o : Ordering} {p q : α} (h : o.Compares p q)
    (c : Comparison) : c.admits o = true ↔ c.Relates p q := by
  cases c <;>
    simp only [admits, Relates, decide_eq_true_eq, ne_eq, h.eq_lt, h.eq_eq, h.eq_gt, not_lt]

end Comparison

/-- The code points of a text. -/
def codePoints (s : String) : List Nat :=
  s.toList.map Char.toNat

/-- Texts are ordered as the lists of their code points are, by the first difference. -/
theorem orderChars_compares (cs ds : List Char) :
    (orderChars cs ds).Compares (cs.map Char.toNat) (ds.map Char.toNat) := by
  induction cs generalizing ds with
  | nil =>
    cases ds with
    | nil => exact rfl
    | cons d ds => exact List.nil_lt_cons _ _
  | cons c cs ih =>
    cases ds with
    | nil => exact List.nil_lt_cons _ _
    | cons d ds =>
      rw [orderChars, List.map_cons, List.map_cons]
      rcases lt_trichotomy c.toNat d.toNat with hlt | heq | hgt
      · rw [compare_lt_iff_lt.mpr hlt]
        exact List.cons_lt_cons_iff.mpr (.inl hlt)
      · -- The rests decide.
        rw [compare_eq_iff_eq.mpr heq, heq]
        have hrest := ih ds
        show (orderChars cs ds).Compares _ _
        cases h : orderChars cs ds with
        | lt =>
          rw [h] at hrest
          exact List.cons_lt_cons_iff.mpr (.inr ⟨rfl, hrest⟩)
        | eq =>
          rw [h] at hrest
          exact congrArg (d.toNat :: ·) hrest
        | gt =>
          rw [h] at hrest
          exact List.cons_lt_cons_iff.mpr (.inr ⟨rfl, hrest⟩)
      · rw [compare_gt_iff_gt.mpr hgt]
        exact List.cons_lt_cons_iff.mpr (.inl hgt)

theorem codePoints_injective {s t : String} (h : codePoints s = codePoints t) : s = t := by
  have hchars : Function.Injective Char.toNat := fun c d hcd => Char.ext (UInt32.toNat.inj hcd)
  exact String.toList_inj.mp (List.map_injective_iff.mpr hchars h)

/-! ## Built-in comparisons -/

/-- The comparison of two values is built in: both convert to doubles, or both are strings, or both
are truth values and they are tested for equality. -/
inductive Comparison.Native : Comparison → Value → Value → Prop where
  | numbers {c : Comparison} {a b : Value} : a.supports .double = true →
      b.supports .double = true → Native c a b
  | strings {c : Comparison} (s t : String) : Native c (.string s) (.string t)
  | bools (p q : Bool) : Native .equal (.bool p) (.bool q)

section Native

variable {c : Comparison} {a b : Value} {x y : Double}

theorem compareNatively?_of_native (h : c.Native a b) :
    ∃ result, compareNatively? c a b = some result := by
  cases h with
  | strings s t => exact ⟨_, rfl⟩
  | bools p q => exact ⟨_, rfl⟩
  | numbers ha hb =>
    unfold compareNatively?
    rw [ha, hb, Bool.and_true, if_pos rfl]
    cases a.toDouble with
    | error err => exact ⟨_, rfl⟩
    | ok x => cases b.toDouble <;> exact ⟨_, rfl⟩

theorem compareNatively?_of_not_native (h : ¬ c.Native a b) : compareNatively? c a b = none := by
  unfold compareNatively?
  split
  · rename_i hsupports
    obtain ⟨ha, hb⟩ := Bool.and_eq_true_iff.mp hsupports
    exact absurd (.numbers ha hb) h
  · split
    · exact absurd (.strings _ _) h
    · split
      · rename_i hc
        subst hc
        exact absurd (.bools _ _) h
      · rfl
    · rfl

theorem compareNatively?_of_toDouble (ha : a.toDouble = .ok x) (hb : b.toDouble = .ok y) :
    compareNatively? c a b = some (.ok (c.onDoubles x y)) := by
  have hholds : Value.holds c (.double x) (.double y) = .ok (c.onDoubles x y) := by
    cases c <;> rfl
  unfold compareNatively?
  rw [Value.supports_of_toDouble ha, Value.supports_of_toDouble hb, Bool.and_true, if_pos rfl, ha, hb]
  exact congrArg some hholds

theorem compareNatively?_of_error {err : Error} (ha : a.supports .double = true)
    (hb : b.supports .double = true)
    (h : a.toDouble = .error err ∨ (∃ x, a.toDouble = .ok x) ∧ b.toDouble = .error err) :
    compareNatively? c a b = some (.error err) := by
  unfold compareNatively?
  rw [ha, hb, Bool.and_true, if_pos rfl]
  rcases h with herr | ⟨⟨x, hx⟩, herr⟩
  · rw [herr]
  · rw [hx, herr]

/-- Numbers are compared as their doubles are, by their values. -/
theorem compareNatively?_numbers {p q : WithBot (WithTop Int)} (ha : a.toDouble = .ok x)
    (hb : b.toDouble = .ok y) (hp : x.extended? = some p) (hq : y.extended? = some q) :
    ∃ t, compareNatively? c a b = some (.ok t) ∧ (t = true ↔ c.Relates p q) := by
  obtain ⟨o, ho, hcompares⟩ := Double.order?_compares hp hq
  refine ⟨_, compareNatively?_of_toDouble ha hb, ?_⟩
  rw [Comparison.onDoubles, ho]
  exact Comparison.admits_iff hcompares c

theorem compareNatively?_texts (s t : String) :
    ∃ b, compareNatively? c (.string s) (.string t) = some (.ok b) ∧
      (b = true ↔ c.Relates (codePoints s) (codePoints t)) := by
  have hcompares := orderChars_compares s.toList t.toList
  cases c with
  | equal =>
    refine ⟨decide (s = t), rfl, ?_⟩
    rw [decide_eq_true_eq]
    exact ⟨fun h => congrArg codePoints h, codePoints_injective⟩
  | greater => exact ⟨_, rfl, Comparison.admits_iff hcompares .greater⟩
  | greaterOrEqual => exact ⟨_, rfl, Comparison.admits_iff hcompares .greaterOrEqual⟩
  | less => exact ⟨_, rfl, Comparison.admits_iff hcompares .less⟩
  | lessOrEqual => exact ⟨_, rfl, Comparison.admits_iff hcompares .lessOrEqual⟩

end Native

/-! ## Comparison operators -/

/-- Without a query, and in any surroundings, the operator has this truth value for its result. -/
def Operator.Decides (op : Operator) (a b : Value) (t : Bool) : Prop :=
  ∀ r past, applyBinary r op a b past = ⟨[], .ok (.bool t)⟩

section Operators

variable {r : Resolvers} {past : List Query} {op : Operator} {c : Comparison} {a b : Value}
  {t t' : Bool}

theorem applyBinary_native (hop : op.comparison? = some c) (h : c.Native a b) :
    (applyBinary r op a b past).queries = [] := by
  obtain ⟨result, hresult⟩ := compareNatively?_of_native h
  rw [applyBinary_of_comparison hop, compareValues, hresult]
  cases result <;> rfl

theorem applyBinary_asked (hop : op.comparison? = some c) (h : ¬ c.Native a b) :
    applyBinary r op a b past =
      ⟨[.comparison a c b], (r.compare past a b c).map fun t => .bool (op.verdict t)⟩ := by
  rw [applyBinary_of_comparison hop, compareValues, compareNatively?_of_not_native h]
  cases hanswer : r.compare past a b c with
  | error err =>
    have hask : r.askComparison a b c past = ⟨[.comparison a c b], .error err⟩ := by
      rw [Resolvers.askComparison, hanswer]
    exact Task.andThen_error hask
  | ok t =>
    have hask : r.askComparison a b c past = ⟨[.comparison a c b], .ok t⟩ := by
      rw [Resolvers.askComparison, hanswer]
    exact Task.andThen_ok hask

theorem decides_of_native (hop : op.comparison? = some c)
    (h : compareNatively? c a b = some (.ok t)) : op.Decides a b (op.verdict t) := by
  intro r past
  rw [applyBinary_of_comparison hop, compareValues, h]
  rfl

theorem Operator.Decides.unique (h : op.Decides a b t) (h' : op.Decides a b t') : t = t' := by
  have heq := (h {} []).symm.trans (h' {} [])
  cases heq
  rfl

theorem decider_of_comparison (hop : op.comparison? = some c) : op.decider? = none := by
  cases op <;> cases hop <;> rfl

/-- Both operands are evaluated, then they are compared, and then the operator gives its verdict. -/
theorem task_of_comparison (left right : Expr) (hop : op.comparison? = some c) :
    (Expr.binary left op right).task r =
      ((left.task r).andThen fun a => (right.task r).andThen fun b =>
        compareValues r c a b).andThen fun t => .pure (.bool (op.verdict t)) := by
  rw [Expr.task_binary r left right (decider_of_comparison hop)]
  simp only [Task.andThen_assoc, applyBinary_of_comparison hop]

/-- What is not equal is what `==` says is not, and both fail alike. -/
theorem task_notEqual (r : Resolvers) (left right : Expr) (past : List Query) :
    (∃ queries t, (Expr.binary left .equal right).task r past = ⟨queries, .ok (.bool t)⟩ ∧
      (Expr.binary left .notEqual right).task r past = ⟨queries, .ok (.bool !t)⟩) ∨
    ∃ queries err, (Expr.binary left .equal right).task r past = ⟨queries, .error err⟩ ∧
      (Expr.binary left .notEqual right).task r past = ⟨queries, .error err⟩ := by
  have hequal : Operator.comparison? .equal = some .equal := rfl
  have hnotEqual : Operator.comparison? .notEqual = some .equal := rfl
  rw [task_of_comparison left right hequal, task_of_comparison left right hnotEqual]
  rcases hrun : ((left.task r).andThen fun a => (right.task r).andThen fun b =>
    compareValues r .equal a b) past with ⟨queries, err | t⟩
  · rw [Task.andThen_error hrun, Task.andThen_error hrun]
    exact .inr ⟨queries, err, rfl, rfl⟩
  · rw [Task.andThen_ok hrun, Task.andThen_ok hrun]
    refine .inl ⟨queries, t, ?_, ?_⟩
    · exact congrArg (Run.mk · _) (List.append_nil queries)
    · exact congrArg (Run.mk · _) (List.append_nil queries)

end Operators

/-! ## Total orders -/

/-- On these values the comparison operators are one total order up to `==`, in any surroundings and
without a query. -/
structure Coherent (S : Value → Prop) : Prop where
  decided : ∀ {a b op c}, S a → S b → Operator.comparison? op = some c → ∃ t, op.Decides a b t
  trichotomy : ∀ {a b}, S a → S b →
    ∃! op, op ∈ [Operator.less, .equal, .greater] ∧ op.Decides a b true
  lessOrEqual : ∀ {a b}, S a → S b → ∀ t,
    Operator.lessOrEqual.Decides a b t ↔ Operator.greater.Decides a b (!t)
  greaterOrEqual : ∀ {a b}, S a → S b → ∀ t,
    Operator.greaterOrEqual.Decides a b t ↔ Operator.less.Decides a b (!t)
  greater : ∀ {a b}, S a → S b → ∀ t,
    Operator.greater.Decides a b t ↔ Operator.less.Decides b a t
  trans : ∀ {a b c}, S a → S b → S c → Operator.less.Decides a b true →
    Operator.less.Decides b c true → Operator.less.Decides a c true
  equal_self : ∀ {a}, S a → Operator.equal.Decides a a true
  equal_congr : ∀ {a b c op k}, S a → S b → S c → Operator.equal.Decides a b true →
    Operator.comparison? op = some k → ∀ t, op.Decides a c t ↔ op.Decides b c t

section Orders

variable {α : Type} [LinearOrder α] {K : Value → α → Prop}

/-- The comparisons of values are those of their places in an order. -/
def Places (K : Value → α → Prop) : Prop :=
  ∀ {a b p q}, K a p → K b q → ∀ c, ∃ t, compareNatively? c a b = some (.ok t) ∧
    (t = true ↔ c.Relates p q)

theorem Operator.verdict_verdict (op : Operator) (t : Bool) : op.verdict (op.verdict t) = t := by
  unfold Operator.verdict
  split <;> simp

theorem Operator.verdict_injective {op : Operator} {t t' : Bool}
    (h : op.verdict t = op.verdict t') : t = t' := by
  rw [← op.verdict_verdict t, h, op.verdict_verdict]

namespace Places

variable {a b : Value} {p q : α} {t : Bool}

theorem decides_iff (h : Places K) (ha : K a p) (hb : K b q) {op : Operator} {c : Comparison}
    (hop : op.comparison? = some c) :
    op.Decides a b (op.verdict t) ↔ (t = true ↔ c.Relates p q) := by
  obtain ⟨t', hnative, ht'⟩ := h ha hb c
  have hdecides : op.Decides a b (op.verdict t') := decides_of_native hop hnative
  constructor
  · intro ht
    obtain rfl := Operator.verdict_injective (hdecides.unique ht)
    exact ht'
  · intro ht
    obtain rfl : t = t' := Bool.eq_iff_iff.mpr (ht.trans ht'.symm)
    exact hdecides

theorem operator_iff (h : Places K) (ha : K a p) (hb : K b q) (c : Comparison) :
    c.operator.Decides a b t ↔ (t = true ↔ c.Relates p q) := by
  have hop : c.operator.comparison? = some c := by
    cases c <;> rfl
  have hverdict : c.operator.verdict t = t := by
    cases c <;> rfl
  have hdecides := h.decides_iff ha hb hop (t := t)
  rwa [hverdict] at hdecides

theorem less_iff (h : Places K) (ha : K a p) (hb : K b q) :
    Operator.less.Decides a b t ↔ (t = true ↔ p < q) :=
  h.operator_iff ha hb .less

theorem equal_iff (h : Places K) (ha : K a p) (hb : K b q) :
    Operator.equal.Decides a b t ↔ (t = true ↔ p = q) :=
  h.operator_iff ha hb .equal

theorem greater_iff (h : Places K) (ha : K a p) (hb : K b q) :
    Operator.greater.Decides a b t ↔ (t = true ↔ q < p) :=
  h.operator_iff ha hb .greater

theorem trichotomy (h : Places K) (ha : K a p) (hb : K b q) :
    ∃! op, op ∈ [Operator.less, .equal, .greater] ∧ op.Decides a b true := by
  have hmem : ∀ op, op ∈ [Operator.less, .equal, .greater] ↔
      op = .less ∨ op = .equal ∨ op = .greater := by simp
  have hless := h.less_iff ha hb (t := true)
  have hequal := h.equal_iff ha hb (t := true)
  have hgreater := h.greater_iff ha hb (t := true)
  simp only [true_iff] at hless hequal hgreater
  rcases lt_trichotomy p q with hlt | heq | hgt
  · refine ⟨.less, ⟨by simp, hless.mpr hlt⟩, ?_⟩
    rintro op ⟨hop, hdecides⟩
    rcases (hmem op).mp hop with rfl | rfl | rfl
    · rfl
    · exact absurd (hequal.mp hdecides) hlt.ne
    · exact absurd (hgreater.mp hdecides) hlt.not_gt
  · refine ⟨.equal, ⟨by simp, hequal.mpr heq⟩, ?_⟩
    rintro op ⟨hop, hdecides⟩
    rcases (hmem op).mp hop with rfl | rfl | rfl
    · exact absurd heq (hless.mp hdecides).ne
    · rfl
    · exact absurd heq.symm (hgreater.mp hdecides).ne
  · refine ⟨.greater, ⟨by simp, hgreater.mpr hgt⟩, ?_⟩
    rintro op ⟨hop, hdecides⟩
    rcases (hmem op).mp hop with rfl | rfl | rfl
    · exact absurd (hless.mp hdecides) hgt.not_gt
    · exact absurd (hequal.mp hdecides).symm hgt.ne
    · rfl

/-- The laws of the operators are those of the order. -/
theorem coherent (h : Places K) : Coherent fun v => ∃ p, K v p where
  decided := by
    rintro a b op c ⟨p, ha⟩ ⟨q, hb⟩ hop
    obtain ⟨t, hnative, -⟩ := h ha hb c
    exact ⟨_, decides_of_native hop hnative⟩
  trichotomy := by
    rintro a b ⟨p, ha⟩ ⟨q, hb⟩
    exact h.trichotomy ha hb
  lessOrEqual := by
    rintro a b ⟨p, ha⟩ ⟨q, hb⟩ t
    have hlessOrEqual : Operator.lessOrEqual.Decides a b t ↔ (t = true ↔ p ≤ q) :=
      h.operator_iff ha hb .lessOrEqual
    rw [hlessOrEqual, h.greater_iff ha hb, ← not_lt]
    cases t <;> simp
  greaterOrEqual := by
    rintro a b ⟨p, ha⟩ ⟨q, hb⟩ t
    have hgreaterOrEqual : Operator.greaterOrEqual.Decides a b t ↔ (t = true ↔ q ≤ p) :=
      h.operator_iff ha hb .greaterOrEqual
    rw [hgreaterOrEqual, h.less_iff ha hb, ← not_lt]
    cases t <;> simp
  greater := by
    rintro a b ⟨p, ha⟩ ⟨q, hb⟩ t
    rw [h.greater_iff ha hb, h.less_iff hb ha]
  trans := by
    rintro a b c ⟨p, ha⟩ ⟨q, hb⟩ ⟨s, hc⟩ hab hbc
    have hpq : p < q := ((h.less_iff ha hb).mp hab).mp rfl
    have hqs : q < s := ((h.less_iff hb hc).mp hbc).mp rfl
    exact (h.less_iff ha hc).mpr (iff_of_true rfl (hpq.trans hqs))
  equal_self := by
    rintro a ⟨p, ha⟩
    exact (h.equal_iff ha ha).mpr (iff_of_true rfl rfl)
  equal_congr := by
    rintro a b c op k ⟨p, ha⟩ ⟨q, hb⟩ ⟨s, hc⟩ hab hop t
    obtain rfl : p = q := ((h.equal_iff ha hb).mp hab).mp rfl
    rw [← op.verdict_verdict t, h.decides_iff ha hc hop, h.decides_iff hb hc hop]

end Places

end Orders

/-! ## Values in an order -/

/-- A string, with the list of its code points. -/
def Value.Spells (v : Value) (codes : List Nat) : Prop :=
  ∃ s, v = .string s ∧ codes = codePoints s

/-- A value that converts to a double other than NaN, with the value of the double. -/
def Value.Measures (v : Value) (p : WithBot (WithTop Int)) : Prop :=
  ∃ x, v.toDouble = .ok x ∧ x.extended? = some p

theorem places_spells : Places Value.Spells := by
  rintro _ _ _ _ ⟨s, rfl, rfl⟩ ⟨t, rfl, rfl⟩ c
  exact compareNatively?_texts s t

theorem places_measures : Places Value.Measures := by
  rintro a b p q ⟨x, ha, hp⟩ ⟨y, hb, hq⟩ c
  exact compareNatively?_numbers ha hb hp hq

theorem decides_of_isNaN {op : Operator} {c : Comparison} {a b : Value} {x y : Double}
    (hop : op.comparison? = some c) (ha : a.toDouble = .ok x) (hb : b.toDouble = .ok y)
    (h : x.isNaN = true ∨ y.isNaN = true) : op.Decides a b (op = .notEqual) := by
  have hnative : compareNatively? c a b = some (.ok false) := by
    rw [compareNatively?_of_toDouble ha hb, Comparison.onDoubles, Double.order?_eq_none h]
    rfl
  have hverdict : op.verdict false = decide (op = .notEqual) := by
    cases op <;> rfl
  rw [← hverdict]
  exact decides_of_native hop hnative

theorem Coherent.mono {S S' : Value → Prop} (h : Coherent S) (hsub : ∀ {v}, S' v → S v) :
    Coherent S' where
  decided ha hb := h.decided (hsub ha) (hsub hb)
  trichotomy ha hb := h.trichotomy (hsub ha) (hsub hb)
  lessOrEqual ha hb := h.lessOrEqual (hsub ha) (hsub hb)
  greaterOrEqual ha hb := h.greaterOrEqual (hsub ha) (hsub hb)
  greater ha hb := h.greater (hsub ha) (hsub hb)
  trans ha hb hc := h.trans (hsub ha) (hsub hb) (hsub hc)
  equal_self ha := h.equal_self (hsub ha)
  equal_congr ha hb hc := h.equal_congr (hsub ha) (hsub hb) (hsub hc)

theorem coherent_strings : Coherent fun v => ∃ s, v = .string s :=
  places_spells.coherent.mono fun ⟨s, h⟩ => ⟨codePoints s, s, h, rfl⟩

theorem coherent_numbers : Coherent fun v => ∃ x, v.toDouble = .ok x ∧ x.isNaN = false :=
  places_measures.coherent.mono fun ⟨x, hx, hnan⟩ => by
    obtain ⟨p, hp⟩ := Double.exists_extended? hnan
    exact ⟨p, x, hx, hp⟩

/-- Once its operands are evaluated, a comparison operator either has a built-in comparison and asks
nothing, or it asks the surroundings for its comparison of them, once, and `!=` asks for `==`. On
every node, `!=` gives what `==` gives, negated, or fails as it does. The operators are one total
order up to `==` on strings, by their code points, and on values that convert to numbers, by the
values of these; and with NaN they are all false but `!=`. -/
theorem comparison_coherent (r : Resolvers) :
    (∀ op c past left right queries a b, Operator.comparison? op = some c →
      Operands r past left right queries a b →
      c.operator = (if op = .notEqual then .equal else op) ∧
      (c.Native a b → ((Expr.binary left op right).task r past).queries = queries) ∧
      (¬ c.Native a b → (Expr.binary left op right).task r past =
        ⟨queries ++ [.comparison a c b],
          (r.compare (past ++ queries) a b c).map fun t => .bool (op.verdict t)⟩) ∧
      ∀ t, op.Decides a b t →
        (Expr.binary left op right).task r past = ⟨queries, .ok (.bool t)⟩) ∧
    (∀ left right past,
      (∃ queries t, (Expr.binary left .equal right).task r past = ⟨queries, .ok (.bool t)⟩ ∧
        (Expr.binary left .notEqual right).task r past = ⟨queries, .ok (.bool !t)⟩) ∨
      ∃ queries err, (Expr.binary left .equal right).task r past = ⟨queries, .error err⟩ ∧
        (Expr.binary left .notEqual right).task r past = ⟨queries, .error err⟩) ∧
    Coherent (fun v => ∃ s, v = .string s) ∧
    (∀ c s s' t, (Comparison.operator c).Decides (.string s) (.string s') t ↔
      (t = true ↔ c.Relates (codePoints s) (codePoints s'))) ∧
    Coherent (fun v => ∃ x, v.toDouble = .ok x ∧ x.isNaN = false) ∧
    (∀ c a b p q t, Value.Measures a p → Value.Measures b q →
      ((Comparison.operator c).Decides a b t ↔ (t = true ↔ c.Relates p q))) ∧
    ∀ op c a b x y, Operator.comparison? op = some c → Value.toDouble a = .ok x →
      Value.toDouble b = .ok y → x.isNaN = true ∨ y.isNaN = true →
      op.Decides a b (op = .notEqual) := by
  refine ⟨?_, task_notEqual r, coherent_strings, ?_, coherent_numbers, ?_, ?_⟩
  · intro op c past left right queries a b hop h
    have htask := task_of_operands (decider_of_comparison hop) h
    refine ⟨?_, fun hnative => ?_, fun hnative => ?_, fun t hdecides => ?_⟩
    · cases op <;> cases hop <;> rfl
    · rw [htask, applyBinary_native hop hnative, List.append_nil]
    · rw [htask, applyBinary_asked hop hnative]
    · rw [htask, hdecides, List.append_nil]
  · intro c s s' t
    exact places_spells.operator_iff ⟨s, rfl, rfl⟩ ⟨s', rfl, rfl⟩ c
  · intro c a b p q t ha hb
    exact places_measures.operator_iff ha hb c
  · intro op c a b x y hop ha hb h
    exact decides_of_isNaN hop ha hb h

/-- A truth value is not compared with a string but by the surroundings, and `!=` asks them for
`==`; the integer 1 is less than the double 2, in any surroundings. -/
theorem comparison_coherent_mixed :
    let r : Resolvers := { compare := fun _ _ _ c => .ok (c == .equal) }
    (Expr.binary (.literal (.boolean true)) .notEqual (.literal (.string "x"))).task r [] =
        ⟨[.comparison (.bool true) .equal (.string "x")], .ok (.bool false)⟩ ∧
      Operator.less.Decides (.string "Z") (.string "a") true ∧
      Operator.less.Decides (.int 1) (.double (.ofInt 2)) true ∧
      Operator.notEqual.Decides (.double .nan) (.double .nan) true := by
  intro r
  obtain ⟨hnode, -, -, hstrings, -, hnumbers, hnan⟩ := comparison_coherent r
  have hoperands : Operands r [] (.literal (.boolean true)) (.literal (.string "x")) []
      (.bool true) (.string "x") := ⟨[], [], rfl, rfl, rfl⟩
  have hnative : ¬ Comparison.Native .equal (.bool true) (.string "x") := by
    intro h
    cases h with
    | numbers ha hb => cases ha
  have htexts : codePoints "Z" < codePoints "a" := by decide
  obtain ⟨-, -, hasked, -⟩ := hnode .notEqual .equal [] _ _ [] _ _ rfl hoperands
  have hone : Value.Measures (.int 1)
      (((2 ^ (1074 : Nat) : Int) : WithTop Int) : WithBot (WithTop Int)) :=
    ⟨.ofInt 1, Value.doubleOfInt_of_isFinite (by decide +kernel), by decide +kernel⟩
  have htwo : Value.Measures (.double (.ofInt 2))
      (((2 ^ (1075 : Nat) : Int) : WithTop Int) : WithBot (WithTop Int)) :=
    ⟨.ofInt 2, rfl, by decide +kernel⟩
  refine ⟨hasked hnative, (hstrings .less "Z" "a" true).mpr (iff_of_true rfl htexts),
    (hnumbers .less _ _ _ _ true hone htwo).mpr (iff_of_true rfl ?_),
    hnan .notEqual .equal _ _ .nan .nan rfl rfl rfl (.inl rfl)⟩
  exact WithBot.coe_lt_coe.mpr (WithTop.coe_lt_coe.mpr (by decide +kernel))

end Formula
