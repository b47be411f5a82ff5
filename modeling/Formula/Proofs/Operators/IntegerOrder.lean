import Formula.Proofs.Conversion.Paths
import Formula.Proofs.Double.Rounding
import Formula.Proofs.Operators.Comparison

/-!
# Formula.Proofs.Operators.IntegerOrder

Integers are compared as the doubles nearest to them, of which there are none from a certain
magnitude on (`TooLarge`). So the comparison operators never reverse the order of two integers, and
up to 2⁵³ they say what the order of the integers says (`integer_comparison`).
-/

-- Powers are taken with the instance of the core library, whatever other instances are known.
attribute [local instance (10000)] instPowNat

namespace Formula

theorem Comparison.relates_of_strictMono {α β : Type} [LinearOrder α] [LinearOrder β] {f : α → β}
    (hf : StrictMono f) (c : Comparison) {p q : α} : c.Relates (f p) (f q) ↔ c.Relates p q := by
  cases c <;> simp only [Relates, hf.lt_iff_lt, hf.le_iff_le, hf.injective.eq_iff]

/-- The integer is rounded to no finite double. -/
def TooLarge (n : Int) : Prop :=
  Double.bound ≤ n.natAbs

instance (n : Int) : Decidable (TooLarge n) :=
  inferInstanceAs (Decidable (_ ≤ _))

/-! ## Integers and their doubles -/

section Doubles

variable {a b n : Int} {c : Comparison} {op : Operator}

theorem tooLarge_iff : TooLarge n ↔ (Double.ofInt n).isFinite = false := by
  rw [Bool.eq_false_iff, ne_eq, Double.ofInt_isFinite_iff, Nat.not_lt]
  rfl

theorem not_tooLarge_of_le (h : n.natAbs ≤ 2 ^ (53 : Nat)) : ¬ TooLarge n := by
  have hlt : 2 ^ (53 : Nat) < Double.bound := by
    decide +kernel
  exact Nat.not_le.mpr (Nat.lt_of_le_of_lt h hlt)

theorem toDouble_of_tooLarge (h : TooLarge n) :
    (Value.int n).toDouble = .error (.typeMismatch .tooLargeForDouble) :=
  Value.doubleOfInt_eq_error_iff.mpr ⟨tooLarge_iff.mp h, rfl⟩

/-- An integer that is not too large is measured by the double nearest to it. -/
theorem measures_int (h : ¬ TooLarge n) : Value.Measures (.int n)
    ((Double.nearestUnits n : WithTop Int) : WithBot (WithTop Int)) := by
  have hfinite : (Double.ofInt n).isFinite = true := by
    rwa [tooLarge_iff, Bool.not_eq_false] at h
  exact ⟨_, Value.doubleOfInt_of_isFinite hfinite, Double.extended?_ofInt hfinite⟩

theorem compareNatively?_of_tooLarge (h : TooLarge a ∨ TooLarge b) :
    compareNatively? c (.int a) (.int b) = some (.error (.typeMismatch .tooLargeForDouble)) := by
  refine compareNatively?_of_error rfl rfl ?_
  by_cases ha : TooLarge a
  · exact .inl (toDouble_of_tooLarge ha)
  · obtain ⟨x, hx, -⟩ := measures_int ha
    exact .inr ⟨⟨x, hx⟩, toDouble_of_tooLarge (h.resolve_left ha)⟩

/-- Integers are compared as the doubles nearest to them. -/
theorem compareNatively?_ints (ha : ¬ TooLarge a) (hb : ¬ TooLarge b) :
    ∃ t, compareNatively? c (.int a) (.int b) = some (.ok t) ∧
      (t = true ↔ c.Relates (Double.nearestUnits a) (Double.nearestUnits b)) := by
  have hmono : StrictMono fun n : Int => ((n : WithTop Int) : WithBot (WithTop Int)) :=
    fun m n h => WithBot.coe_lt_coe.mpr (WithTop.coe_lt_coe.mpr h)
  obtain ⟨t, hnative, ht⟩ := places_measures (measures_int ha) (measures_int hb) c
  exact ⟨t, hnative, ht.trans (Comparison.relates_of_strictMono hmono c)⟩

theorem relates_nearestUnits (c : Comparison) (ha : a.natAbs ≤ 2 ^ (53 : Nat))
    (hb : b.natAbs ≤ 2 ^ (53 : Nat)) :
    c.Relates (Double.nearestUnits a) (Double.nearestUnits b) ↔ c.Relates a b := by
  have hmono : StrictMono fun n : Int => n * unitsPerOne :=
    fun m n h => Int.mul_lt_mul_of_pos_right h (Int.natCast_pos.mpr unitsPerOne_pos)
  rw [Double.nearestUnits_of_le ha, Double.nearestUnits_of_le hb]
  exact Comparison.relates_of_strictMono hmono c

/-- The exact comparison of two integers. -/
theorem holds_ints (c : Comparison) (a b : Int) :
    ∃ t, Value.holds c (.int a) (.int b) = .ok t ∧ (t = true ↔ c.Relates a b) := by
  have hcompares : (compare a b).Compares a b := (compare_iff a b).mp rfl
  refine ⟨c.admits (compare a b), ?_, Comparison.admits_iff hcompares c⟩
  cases c <;> rfl

end Doubles

/-! ## Comparing two variables -/

/-- What comes of the comparison of two variables by an operator. -/
def comparison (options : Options) (r : Resolvers) (op : Operator) : Except Error Value :=
  (evaluate options r .any ("#a " ++ op.spelling ++ " #b")).result

section Comparison

variable {options : Options} {r : Resolvers} {op : Operator} {c : Comparison} {a b : Int}

theorem parseSource_comparison (options : Options) (hop : op.comparison? = some c) :
    (parseSource options ("#a " ++ op.spelling ++ " #b")).result =
      .ok (.binary (.var "#a") op (.var "#b")) := by
  have hscan : scan ("#a " ++ op.spelling ++ " #b") = ⟨[⟨.var "#a", 0, "#a"⟩,
      ⟨.operator op, 3, op.spelling⟩, ⟨.var "#b", 4 + op.spelling.length, "#b"⟩], none⟩ := by
    cases op <;> cases hop <;> decide +kernel
  rw [parseSource_of_scan hscan]
  cases op <;> cases hop <;> rfl

section Result

variable (ha : r.var [] "#a" = .ok (.int a)) (hb : r.var [.var "#a"] "#b" = .ok (.int b))

include ha hb

theorem comparison_eq (hop : op.comparison? = some c) : comparison options r op =
    (applyBinary r op (.int a) (.int b) [.var "#a", .var "#b"]).result := by
  have hoperands : Operands r [] (.var "#a") (.var "#b") [.var "#a", .var "#b"] (.int a) (.int b) :=
    ⟨[.var "#a"], [.var "#b"], rfl, congrArg (Run.mk _) ha, congrArg (Run.mk _) hb⟩
  rw [comparison, evaluate_any r (parseSource_comparison options hop), Expr.evaluate,
    task_of_operands (decider_of_comparison hop) hoperands]
  rfl

theorem comparison_of_tooLarge (hop : op.comparison? = some c) (h : TooLarge a ∨ TooLarge b) :
    comparison options r op = .error (.typeMismatch .tooLargeForDouble) := by
  rw [comparison_eq ha hb hop, applyBinary_of_comparison hop, compareValues,
    compareNatively?_of_tooLarge h]
  rfl

theorem comparison_of_not_tooLarge (hop : op.comparison? = some c)
    (h : ¬ (TooLarge a ∨ TooLarge b)) :
    ∃ t, comparison options r op = .ok (.bool (op.verdict t)) ∧
      (t = true ↔ c.Relates (Double.nearestUnits a) (Double.nearestUnits b)) := by
  obtain ⟨hna, hnb⟩ := not_or.mp h
  obtain ⟨t, hnative, ht⟩ := compareNatively?_ints (c := c) hna hnb
  refine ⟨t, ?_, ht⟩
  rw [comparison_eq ha hb hop, decides_of_native hop hnative]

theorem comparison_of_le (hop : op.comparison? = some c) (hla : a.natAbs ≤ 2 ^ (53 : Nat))
    (hlb : b.natAbs ≤ 2 ^ (53 : Nat)) : ∃ t, comparison options r op = .ok (.bool (op.verdict t)) ∧
      Value.holds c (.int a) (.int b) = .ok t ∧ (t = true ↔ c.Relates a b) := by
  obtain ⟨t, ht, hrelates⟩ := comparison_of_not_tooLarge ha hb hop
    (not_or.mpr ⟨not_tooLarge_of_le hla, not_tooLarge_of_le hlb⟩)
  obtain ⟨t', hholds, hexact⟩ := holds_ints c a b
  obtain rfl : t = t' := Bool.eq_iff_iff.mpr
    ((hrelates.trans (relates_nearestUnits c hla hlb)).trans hexact.symm)
  exact ⟨t, ht, hholds, hexact⟩

/-- The order of the integers is not reversed. -/
theorem comparison_of_lt (h : ¬ (TooLarge a ∨ TooLarge b)) (hlt : a < b) :
    (comparison options r .less = .ok (.bool true) ∨
      comparison options r .equal = .ok (.bool true)) ∧
    comparison options r .greater = .ok (.bool false) := by
  have hle := Double.nearestUnits_mono (Int.le_of_lt hlt)
  constructor
  · rcases hle.lt_or_eq with hbelow | hsame
    · obtain ⟨t, ht, hiff⟩ := @comparison_of_not_tooLarge options r .less .less a b ha hb rfl h
      obtain rfl := hiff.mpr hbelow
      exact .inl ht
    · obtain ⟨t, ht, hiff⟩ := @comparison_of_not_tooLarge options r .equal .equal a b ha hb rfl h
      obtain rfl := hiff.mpr hsame
      exact .inr ht
  · obtain ⟨t, ht, hiff⟩ := @comparison_of_not_tooLarge options r .greater .greater a b ha hb rfl h
    obtain rfl : t = false :=
      Bool.eq_false_iff.mpr fun htrue => absurd (hiff.mp htrue) (not_lt.mpr hle)
    exact ht

end Result

end Comparison

/-- The comparison of two integers fails exactly if one of them is too large. Otherwise it compares
the doubles nearest to them, which are in the order of the integers or equal; and up to 2⁵³ it
compares the integers exactly. -/
theorem integer_comparison (options : Options) {r : Resolvers} {a b : Int}
    (ha : r.var [] "#a" = .ok (.int a)) (hb : r.var [.var "#a"] "#b" = .ok (.int b)) :
    (∀ op c, Operator.comparison? op = some c →
      ((∃ cause, comparison options r op = .error (.typeMismatch cause)) ↔
        TooLarge a ∨ TooLarge b) ∧
      (¬ (TooLarge a ∨ TooLarge b) → ∃ t, comparison options r op = .ok (.bool (op.verdict t)) ∧
        (t = true ↔ c.Relates (Double.nearestUnits a) (Double.nearestUnits b))) ∧
      (a.natAbs ≤ 2 ^ (53 : Nat) → b.natAbs ≤ 2 ^ (53 : Nat) →
        ∃ t, comparison options r op = .ok (.bool (op.verdict t)) ∧
          Value.holds c (.int a) (.int b) = .ok t ∧ (t = true ↔ c.Relates a b))) ∧
    (¬ (TooLarge a ∨ TooLarge b) → a < b →
      (comparison options r .less = .ok (.bool true) ∨
        comparison options r .equal = .ok (.bool true)) ∧
      comparison options r .greater = .ok (.bool false)) := by
  refine ⟨fun op c hop => ⟨⟨?_, ?_⟩, ?_, ?_⟩, comparison_of_lt ha hb⟩
  · rintro ⟨cause, herr⟩
    by_contra h
    obtain ⟨t, ht, -⟩ := comparison_of_not_tooLarge ha hb hop h
    cases herr.symm.trans ht
  · intro h
    exact ⟨_, comparison_of_tooLarge ha hb hop h⟩
  · exact comparison_of_not_tooLarge ha hb hop
  · exact comparison_of_le ha hb hop

/-- The least integer that is no double is equal to the one before it, since that is the double
nearest to it; and nothing is less than an integer that is too large. -/
theorem integer_comparison_rounded :
    let r : Int → Int → Resolvers := fun a b =>
      { var := fun _ name => .ok (.int (if name = "#a" then a else b)) }
    let n : Int := 2 ^ (53 : Nat)
    let m : Int := 2 ^ (1024 : Nat) - 2 ^ (970 : Nat)
    comparison {} (r n (n + 1)) .equal = .ok (.bool true) ∧
      comparison {} (r n (n + 1)) .greater = .ok (.bool false) ∧
      (∃ t, comparison {} (r 0 (m - 1)) .less = .ok (.bool t)) ∧
      ∃ cause, comparison {} (r 0 m) .less = .error (.typeMismatch cause) := by
  intro r n m
  obtain ⟨hops, horder⟩ := @integer_comparison {} (r n (n + 1)) _ _ rfl rfl
  obtain ⟨hbelow, -⟩ := @integer_comparison {} (r 0 (m - 1)) _ _ rfl rfl
  obtain ⟨habove, -⟩ := @integer_comparison {} (r 0 m) _ _ rfl rfl
  have hsmall : ¬ (TooLarge n ∨ TooLarge (n + 1)) := by
    decide +kernel
  have hlast : ¬ (TooLarge 0 ∨ TooLarge (m - 1)) := by
    decide +kernel
  have hlarge : TooLarge m := by
    decide +kernel
  have hnearest : Double.nearestUnits n = Double.nearestUnits (n + 1) := by
    decide +kernel
  obtain ⟨t, ht, hiff⟩ := (hops .equal .equal rfl).2.1 hsmall
  obtain rfl : t = true := hiff.mpr hnearest
  obtain ⟨t', ht', -⟩ := (hbelow .less .less rfl).2.1 hlast
  exact ⟨ht, (horder hsmall (by decide)).2, ⟨t', ht'⟩,
    (habove .less .less rfl).1.mpr (.inr hlarge)⟩

end Formula
