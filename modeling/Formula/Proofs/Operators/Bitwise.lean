import Formula.Proofs.Conversion.Integers
import Formula.Proofs.Operators.Basic

/-!
# Formula.Proofs.Operators.Bitwise

Conjunction and disjunction of integers, digit by digit. The digits are those of two's complement
without an end, told by division (`Bitwise.digit`), and an integer is known by them
(`Bitwise.eq_of_digit_eq`). On operands that give integers the operators compute these digits, and
otherwise the error is the one of the first operand that gives none (`bitwise_exact`). So they obey
the laws of a distributive lattice, however they are nested.
-/

-- Powers are taken with the instance of the core library, whatever other instances are known.
attribute [local instance (10000)] instPowNat

namespace Formula

/-! ## Digits -/

namespace Bitwise

/-- The digit of an integer that counts `2 ^ i`, in two's complement without an end: whether what
is left of the integer without its `i` last digits is odd. -/
def digit (n : Int) (i : Nat) : Bool :=
  n / 2 ^ i % 2 = 1

variable {m n : Int}

theorem digit_ofNat (n i : Nat) : digit (.ofNat n) i = n.testBit i := by
  have hcast : (Int.ofNat n) / 2 ^ i % 2 = ((n / 2 ^ i % 2 : Nat) : Int) := by
    rw [Int.natCast_emod, Int.natCast_ediv, Int.natCast_pow]
    rfl
  rw [digit, Nat.testBit_eq_decide_div_mod_eq, hcast]
  exact decide_eq_decide.mpr (by omega)

/-- A negative number has the complements of the digits of the number that it is one less than the
opposite of. -/
theorem digit_negSucc (n i : Nat) : digit (.negSucc n) i = !n.testBit i := by
  have hdiv : Int.negSucc n / 2 ^ i = -((n / 2 ^ i : Nat) + 1) := by
    have hpos : (0 : Int) < 2 ^ i := Int.pow_pos (by decide)
    rw [Int.negSucc_ediv n hpos, Int.natCast_ediv, Int.natCast_pow]
    rfl
  rw [digit, Nat.testBit_eq_decide_div_mod_eq, hdiv, ← decide_not]
  exact decide_eq_decide.mpr (by omega)

theorem testBit_without (m n i : Nat) :
    (without m n).testBit i = (m.testBit i && !n.testBit i) := by
  rw [without, Nat.testBit_xor, Nat.testBit_and]
  cases m.testBit i <;> cases n.testBit i <;> rfl

theorem digit_and (m n : Int) (i : Nat) : digit (and m n) i = (digit m i && digit n i) := by
  cases m <;> cases n <;>
    simp only [and, digit_ofNat, digit_negSucc, testBit_without, Nat.testBit_and, Nat.testBit_or,
      Bool.not_or, Bool.and_comm]

theorem digit_or (m n : Int) (i : Nat) : digit (or m n) i = (digit m i || digit n i) := by
  cases m <;> cases n <;>
    simp only [or, digit_ofNat, digit_negSucc, testBit_without, Nat.testBit_and, Nat.testBit_or,
      Bool.not_and, Bool.not_not, Bool.or_comm]

/-- Far enough to the left every digit of a number tells its sign. -/
theorem exists_digit_sign (m n : Nat) :
    ∃ i, digit (.ofNat m) i = false ∧ digit (.negSucc n) i = true := by
  have hm : m < 2 ^ (m + n) :=
    Nat.lt_of_lt_of_le Nat.lt_two_pow_self (Nat.pow_le_pow_right (by decide) (by omega))
  have hn : n < 2 ^ (m + n) :=
    Nat.lt_of_lt_of_le Nat.lt_two_pow_self (Nat.pow_le_pow_right (by decide) (by omega))
  refine ⟨m + n, ?_, ?_⟩
  · rw [digit_ofNat, Nat.testBit_lt_two_pow hm]
  · rw [digit_negSucc, Nat.testBit_lt_two_pow hn]
    rfl

theorem eq_of_digit_eq (h : ∀ i, digit m i = digit n i) : m = n := by
  cases m with
  | ofNat m =>
    cases n with
    | ofNat n =>
      have htest : ∀ i, m.testBit i = n.testBit i := by simpa only [digit_ofNat] using h
      rw [Nat.eq_of_testBit_eq htest]
    | negSucc n =>
      obtain ⟨i, hm, hn⟩ := exists_digit_sign m n
      exact absurd ((hm.symm.trans (h i)).trans hn) (by decide)
  | negSucc m =>
    cases n with
    | ofNat n =>
      obtain ⟨i, hn, hm⟩ := exists_digit_sign n m
      exact absurd ((hn.symm.trans (h i).symm).trans hm) (by decide)
    | negSucc n =>
      have htest : ∀ i, m.testBit i = n.testBit i := by
        simpa only [digit_negSucc, Bool.not_inj_iff] using h
      rw [Nat.eq_of_testBit_eq htest]

end Bitwise

/-! ## Operands -/

/-- What a bitwise operator does to two digits. -/
def Operator.onDigits? : Operator → Option (Bool → Bool → Bool)
  | bitwiseAnd => some Bool.and
  | bitwiseOr => some Bool.or
  | _ => none

/-- Why a value gives no integer: it does not convert to integers, or its conversion fails. -/
inductive Value.GivesNoInteger (v : Value) : Error → Prop where
  | notConvertible : v.supports .int = false → GivesNoInteger v (notConvertible .int v)
  | fails {err : Error} : v.Fails .int err → GivesNoInteger v err

section Operands

variable {op : Operator} {f : Bool → Bool → Bool} {g : Int → Int → Int} {a b : Value}

theorem Value.toInt_eq_error_iff {v : Value} {err : Error} :
    v.toInt = .error err ↔ v.GivesNoInteger err := by
  have hconvert : v.convert .int = .error err ↔ v.toInt = .error err := map_eq_error_iff
  rw [← hconvert]
  constructor
  · intro h
    cases hsupports : v.supports .int with
    | false =>
      cases (convert_of_not_supports hsupports).symm.trans h
      exact .notConvertible hsupports
    | true => exact .fails ((convert_eq_error_iff hsupports).mp h)
  · intro h
    cases h with
    | notConvertible hsupports => exact convert_of_not_supports hsupports
    | fails herr => exact convert_of_fails herr

theorem onInts_of_gives {l m : Int} (ha : a.GivesInteger l) (hb : b.GivesInteger m) :
    onInts g a b = .ok (.int (g l m)) := by
  rw [onInts, Value.toInt_eq_ok_iff.mpr ha, Value.toInt_eq_ok_iff.mpr hb]

theorem onInts_eq_ok_iff {v : Value} : onInts g a b = .ok v ↔
    ∃ l m, a.GivesInteger l ∧ b.GivesInteger m ∧ v = .int (g l m) := by
  constructor
  · intro h
    rw [onInts] at h
    cases ha : a.toInt with
    | error err => simp [ha] at h
    | ok l =>
      cases hb : b.toInt with
      | error err => simp [ha, hb] at h
      | ok m =>
        simp only [ha, hb, Except.ok.injEq] at h
        exact ⟨l, m, Value.toInt_eq_ok_iff.mp ha, Value.toInt_eq_ok_iff.mp hb, h.symm⟩
  · rintro ⟨l, m, ha, hb, rfl⟩
    exact onInts_of_gives ha hb

/-- The left operand is converted first. -/
theorem onInts_eq_error_iff {err : Error} : onInts g a b = .error err ↔
    a.GivesNoInteger err ∨ (∃ l, a.GivesInteger l) ∧ b.GivesNoInteger err := by
  rw [onInts]
  simp only [← Value.toInt_eq_error_iff, ← Value.toInt_eq_ok_iff]
  cases a.toInt with
  | error err' => simp
  | ok l => cases b.toInt <;> simp

/-- A bitwise operator is a rule on integers that computes its digits. -/
theorem applyBinary_of_onDigits (hop : op.onDigits? = some f) : ∃ g : Int → Int → Int,
    (∀ r a b, applyBinary r op a b = .ofResult (onInts g a b)) ∧
    ∀ m n i, Bitwise.digit (g m n) i = f (Bitwise.digit m i) (Bitwise.digit n i) := by
  cases op <;> cases hop
  · exact ⟨Bitwise.or, fun _ _ _ => rfl, Bitwise.digit_or⟩
  · exact ⟨Bitwise.and, fun _ _ _ => rfl, Bitwise.digit_and⟩

theorem decider_of_onDigits (hop : op.onDigits? = some f) : op.decider? = none := by
  cases op <;> cases hop <;> rfl

/-- The result is the integer with these digits, of which there is one. -/
theorem applyBinary_bitwise_eq_ok_iff (hop : op.onDigits? = some f) {r : Resolvers}
    {past : List Query} {v : Value} : (applyBinary r op a b past).result = .ok v ↔
      ∃ l m n, a.GivesInteger l ∧ b.GivesInteger m ∧ v = .int n ∧
        ∀ i, Bitwise.digit n i = f (Bitwise.digit l i) (Bitwise.digit m i) := by
  obtain ⟨g, happly, hdigits⟩ := applyBinary_of_onDigits hop
  rw [happly, Task.ofResult, onInts_eq_ok_iff]
  constructor
  · rintro ⟨l, m, ha, hb, rfl⟩
    exact ⟨l, m, g l m, ha, hb, rfl, hdigits l m⟩
  · rintro ⟨l, m, n, ha, hb, rfl, hn⟩
    have heq : n = g l m := Bitwise.eq_of_digit_eq fun i => by rw [hn, hdigits]
    exact ⟨l, m, ha, hb, by rw [heq]⟩

theorem applyBinary_bitwise_eq_error_iff (hop : op.onDigits? = some f) {r : Resolvers}
    {past : List Query} {err : Error} : (applyBinary r op a b past).result = .error err ↔
      a.GivesNoInteger err ∨ (∃ l, a.GivesInteger l) ∧ b.GivesNoInteger err := by
  obtain ⟨g, happly, -⟩ := applyBinary_of_onDigits hop
  rw [happly, Task.ofResult, onInts_eq_error_iff]

theorem applyBinary_bitwise_queries (hop : op.onDigits? = some f) (r : Resolvers)
    (past : List Query) : (applyBinary r op a b past).queries = [] := by
  obtain ⟨g, happly, -⟩ := applyBinary_of_onDigits hop
  rw [happly, Task.ofResult]

end Operands

/-! ## Expressions -/

/-- Whatever was asked before, the expression has a value, and this value gives the integer. -/
def Expr.Gives (r : Resolvers) (e : Expr) (n : Int) : Prop :=
  ∀ past, ∃ queries v, e.task r past = ⟨queries, .ok v⟩ ∧ v.GivesInteger n

/-- Whatever was asked before, the value of the expression is the integer itself. -/
def Expr.Amounts (r : Resolvers) (e : Expr) (n : Int) : Prop :=
  ∀ past, (e.task r past).result = .ok (.int n)

/-- Both expressions have the same integer as their value. -/
def Expr.SameInteger (r : Resolvers) (e e' : Expr) : Prop :=
  ∃ n, e.Amounts r n ∧ e'.Amounts r n

section Expressions

variable {r : Resolvers} {op op' : Operator} {f f' : Bool → Bool → Bool} {x y z : Expr}
  {l m n : Int}

theorem Expr.Amounts.gives (h : x.Amounts r n) : x.Gives r n :=
  fun past => ⟨(x.task r past).queries, .int n, by rw [← h past], .int n⟩

theorem Expr.Amounts.of_digits (hx : x.Amounts r m)
    (h : ∀ i, Bitwise.digit m i = Bitwise.digit n i) : x.Amounts r n := by
  obtain rfl := Bitwise.eq_of_digit_eq h
  exact hx

theorem sameInteger_of_digits (hx : x.Amounts r m) (hy : y.Amounts r n)
    (h : ∀ i, Bitwise.digit m i = Bitwise.digit n i) : x.SameInteger r y :=
  ⟨n, hx.of_digits h, hy⟩

/-- A node of a nest of bitwise operators: its value is an integer, which is an operand again. -/
theorem amounts_node (hop : op.onDigits? = some f) (hx : x.Gives r l) (hy : y.Gives r m) :
    ∃ k, (Expr.binary x op y).Amounts r k ∧
      ∀ i, Bitwise.digit k i = f (Bitwise.digit l i) (Bitwise.digit m i) := by
  obtain ⟨g, happly, hdigits⟩ := applyBinary_of_onDigits hop
  refine ⟨g l m, fun past => ?_, hdigits l m⟩
  obtain ⟨first, a, hfirst, ha⟩ := hx past
  obtain ⟨second, b, hsecond, hb⟩ := hy (past ++ first)
  rw [task_of_operands (decider_of_onDigits hop) ⟨first, second, rfl, hfirst, hsecond⟩, happly,
    onInts_of_gives ha hb]
  rfl

/-! Each law of the operators is one of conjunction and disjunction of digits. -/

theorem bitwise_comm (hop : op.onDigits? = some f) (hx : x.Gives r l) (hy : y.Gives r m) :
    Expr.SameInteger r (.binary x op y) (.binary y op x) := by
  have hcomm : ∀ p q, f p q = f q p := by
    cases op <;> cases hop <;> decide
  obtain ⟨k, hk, hdigits⟩ := amounts_node hop hx hy
  obtain ⟨k', hk', hdigits'⟩ := amounts_node hop hy hx
  exact sameInteger_of_digits hk hk' fun i => by rw [hdigits, hdigits', hcomm]

theorem bitwise_assoc (hop : op.onDigits? = some f) (hx : x.Gives r l) (hy : y.Gives r m)
    (hz : z.Gives r n) :
    Expr.SameInteger r (.binary (.binary x op y) op z) (.binary x op (.binary y op z)) := by
  have hassoc : ∀ p q s, f (f p q) s = f p (f q s) := by
    cases op <;> cases hop <;> decide
  obtain ⟨first, hfirst, dfirst⟩ := amounts_node hop hx hy
  obtain ⟨last, hlast, dlast⟩ := amounts_node hop hy hz
  obtain ⟨k, hk, hdigits⟩ := amounts_node hop hfirst.gives hz
  obtain ⟨k', hk', hdigits'⟩ := amounts_node hop hx hlast.gives
  exact sameInteger_of_digits hk hk' fun i => by rw [hdigits, hdigits', dfirst, dlast, hassoc]

theorem bitwise_self (hop : op.onDigits? = some f) (hx : x.Gives r l) :
    Expr.Amounts r (.binary x op x) l := by
  have hself : ∀ p, f p p = p := by
    cases op <;> cases hop <;> decide
  obtain ⟨k, hk, hdigits⟩ := amounts_node hop hx hx
  exact hk.of_digits fun i => by rw [hdigits, hself]

theorem bitwise_absorb (hop : op.onDigits? = some f) (hop' : op'.onDigits? = some f')
    (hne : op' ≠ op) (hx : x.Gives r l) (hy : y.Gives r m) :
    Expr.Amounts r (.binary x op (.binary x op' y)) l := by
  have habsorb : ∀ p q, f p (f' p q) = p := by
    cases op <;> cases hop <;> cases op' <;> cases hop' <;> first | exact absurd rfl hne | decide
  obtain ⟨inner, hinner, dinner⟩ := amounts_node hop' hx hy
  obtain ⟨k, hk, hdigits⟩ := amounts_node hop hx hinner.gives
  exact hk.of_digits fun i => by rw [hdigits, dinner, habsorb]

theorem bitwise_distrib (hop : op.onDigits? = some f) (hop' : op'.onDigits? = some f')
    (hx : x.Gives r l) (hy : y.Gives r m) (hz : z.Gives r n) :
    Expr.SameInteger r (.binary x op (.binary y op' z))
      (.binary (.binary x op y) op' (.binary x op z)) := by
  have hdistrib : ∀ p q s, f p (f' q s) = f' (f p q) (f p s) := by
    cases op <;> cases hop <;> cases op' <;> cases hop' <;> decide
  obtain ⟨inner, hinner, dinner⟩ := amounts_node hop' hy hz
  obtain ⟨first, hfirst, dfirst⟩ := amounts_node hop hx hy
  obtain ⟨last, hlast, dlast⟩ := amounts_node hop hx hz
  obtain ⟨k, hk, hdigits⟩ := amounts_node hop hx hinner.gives
  obtain ⟨k', hk', hdigits'⟩ := amounts_node hop' hfirst.gives hlast.gives
  exact sameInteger_of_digits hk hk' fun i => by
    rw [hdigits, hdigits', dinner, dfirst, dlast, hdistrib]

end Expressions

/-- If both operands of a bitwise operator give integers, the result is the integer whose digits are
computed from theirs; otherwise the error is the one of the left operand, or of the right one if the
left one gives an integer. So the operator `op` and the other one, `op'`, are commutative and
associative, leave the integer of two equal operands as it is, absorb each other and distribute over
each other, on all expressions that give integers, such nodes among them. -/
theorem bitwise_exact {op op' : Operator} {f f' : Bool → Bool → Bool}
    (hop : op.onDigits? = some f) (hop' : op'.onDigits? = some f') (hne : op' ≠ op)
    (r : Resolvers) :
    (∀ past left right queries a b, Operands r past left right queries a b →
      ((Expr.binary left op right).task r past).queries = queries ∧
      (∀ v, ((Expr.binary left op right).task r past).result = .ok v ↔
        ∃ l m n, a.GivesInteger l ∧ b.GivesInteger m ∧ v = .int n ∧
          ∀ i, Bitwise.digit n i = f (Bitwise.digit l i) (Bitwise.digit m i)) ∧
      (∀ err, ((Expr.binary left op right).task r past).result = .error err ↔
        a.GivesNoInteger err ∨ (∃ l, a.GivesInteger l) ∧ b.GivesNoInteger err)) ∧
    (∀ x y z l m n, Expr.Gives r x l → Expr.Gives r y m → Expr.Gives r z n →
      Expr.SameInteger r (.binary x op y) (.binary y op x) ∧
      Expr.SameInteger r (.binary (.binary x op y) op z) (.binary x op (.binary y op z)) ∧
      Expr.Amounts r (.binary x op x) l ∧
      Expr.Amounts r (.binary x op (.binary x op' y)) l ∧
      Expr.SameInteger r (.binary x op (.binary y op' z))
        (.binary (.binary x op y) op' (.binary x op z))) := by
  constructor
  · intro past left right queries a b h
    rw [task_of_operands (decider_of_onDigits hop) h, applyBinary_bitwise_queries hop]
    exact ⟨List.append_nil _, fun v => applyBinary_bitwise_eq_ok_iff hop,
      fun err => applyBinary_bitwise_eq_error_iff hop⟩
  · intro x y z l m n hx hy hz
    exact ⟨bitwise_comm hop hx hy, bitwise_assoc hop hx hy hz, bitwise_self hop hx,
      bitwise_absorb hop hop' hne hx hy, bitwise_distrib hop hop' hx hy hz⟩

/-- A negative integer and a large double, which have but one digit in common: `#a & #b` is that
digit, and `#b & (#b | #a)` is the integer of `#b`. -/
theorem bitwise_exact_mixed :
    let m : Int := -2 ^ (18 : Nat) - 1
    let n : Int := 2 ^ (70 : Nat) + 2 ^ (18 : Nat)
    let x : Double := Double.ofInt n
    let r : Resolvers := { var := fun _ name =>
      if name = "#a" then .ok (.int m) else .ok (.double x) }
    let a : Expr := .var "#a"
    let b : Expr := .var "#b"
    a.Gives r m ∧ b.Gives r n ∧
      ((Expr.binary a .bitwiseAnd b).task r []).queries = [.var "#a", .var "#b"] ∧
      ((Expr.binary a .bitwiseAnd b).task r []).result = .ok (.int (2 ^ (70 : Nat))) ∧
      (Expr.binary b .bitwiseAnd (.binary b .bitwiseOr a)).Amounts r n := by
  intro m n x r a b
  have hint : Value.GivesInteger (.int m) m := .int _
  have hdouble : Value.GivesInteger (.double x) n := .double (by decide +kernel)
  have ha : a.Gives r m := fun past => ⟨[.var "#a"], _, rfl, hint⟩
  have hb : b.Gives r n := fun past => ⟨[.var "#b"], _, rfl, hdouble⟩
  have hoperands : Operands r [] a b [.var "#a", .var "#b"] (.int m) (.double x) :=
    ⟨[.var "#a"], [.var "#b"], rfl, rfl, rfl⟩
  have hand : Bitwise.and m n = 2 ^ (70 : Nat) := by
    decide +kernel
  obtain ⟨hvalues, hlaws⟩ :=
    @bitwise_exact .bitwiseAnd .bitwiseOr _ _ rfl rfl (by decide) r
  obtain ⟨hqueries, hok, -⟩ := hvalues [] a b _ _ _ hoperands
  obtain ⟨-, -, -, habsorb, -⟩ := hlaws b a b _ _ _ hb ha hb
  exact ⟨ha, hb, hqueries, (hok _).mpr ⟨_, _, _, hint, hdouble, rfl, fun i => by
    rw [← hand, Bitwise.digit_and]⟩, habsorb⟩

end Formula
