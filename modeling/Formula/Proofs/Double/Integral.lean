import Formula.Double.Partial

/-!
# Formula.Proofs.Double.Integral

The integers of a finite double are doubles again. From 2⁵³ on every double is integral, and below
that every integer is a double; so rounding a finite double to an integer and turning that into a
double never leaves the range, and never moves the integer (`throughInt_finite`). The whole part of
a double and what is left above it are doubles too, so the one is subtracted exactly (`sub_whole`).
-/

-- Powers are taken with the instance of the core library, whatever other instances are known.
attribute [local instance (10000)] instPowNat

namespace Formula

namespace Format

variable {f : Format} {m n : Nat}

theorem log2_mono (h : m ≤ n) : m.log2 ≤ n.log2 := by
  by_cases hm : m = 0
  · rw [hm, Nat.log2_zero]
    exact Nat.zero_le _
  · exact (Nat.le_log2 (by omega)).mpr (Nat.le_trans (Nat.log2_self_le hm) h)

theorem grain_mono (h : m ≤ n) : f.grain m ≤ f.grain n := by
  have hlog := log2_mono h
  unfold grain
  omega

/-- A lesser magnitude with the grain of one of the format is in the format. -/
theorem Holds.of_dvd (h : f.Holds n) (hle : m ≤ n) (hdvd : 2 ^ f.grain n ∣ m) : f.Holds m :=
  ⟨Nat.dvd_trans (Nat.pow_dvd_pow 2 (grain_mono hle)) hdvd, Nat.lt_of_le_of_lt hle h.2⟩

/-- The last binary digits of a magnitude of the format are one too. -/
theorem Holds.mod_two_pow (h : f.Holds n) (k : Nat) : f.Holds (n % 2 ^ k) := by
  refine h.of_dvd (Nat.mod_le _ _) ?_
  rcases Nat.le_total (f.grain n) k with hle | hge
  · exact (Nat.dvd_mod_iff (Nat.pow_dvd_pow 2 hle)).mpr h.1
  · rw [Nat.mod_eq_zero_of_dvd (Nat.dvd_trans (Nat.pow_dvd_pow 2 hge) h.1)]
    exact Nat.dvd_zero _

/-- And so are the digits before these. -/
theorem Holds.div_two_pow (h : f.Holds n) (k : Nat) : f.Holds (n / 2 ^ k * 2 ^ k) := by
  refine h.of_dvd (Nat.div_mul_le_self _ _) ?_
  rcases Nat.le_total (f.grain n) k with hle | hge
  · exact Nat.dvd_trans (Nat.pow_dvd_pow 2 hle) (Nat.dvd_mul_left _ _)
  · rw [Nat.div_mul_cancel (Nat.dvd_trans (Nat.pow_dvd_pow 2 hge) h.1)]
    exact h.1

end Format

namespace Double

theorem unitsPerOne_ne_zero : (unitsPerOne : Int) ≠ 0 :=
  Int.natCast_ne_zero.mpr (Nat.ne_of_gt unitsPerOne_pos)

theorem signed_natAbs (k : Int) : signed (k < 0) k.natAbs = k := by
  unfold signed
  split <;> rename_i hk <;> rw [decide_eq_true_eq] at hk <;> omega

theorem natAbs_signed (s : Bool) (n : Nat) : (signed s n).natAbs = n := by
  cases s <;> simp [signed]

theorem signed_inj {s t : Bool} {m n : Nat} (h : signed s m = signed t n) :
    m = n ∧ (s = t ∨ m = 0) := by
  have hmagnitude : m = n := by rw [← natAbs_signed s m, h, natAbs_signed]
  refine ⟨hmagnitude, ?_⟩
  subst hmagnitude
  cases s with
  | false =>
    cases t with
    | false => exact .inl rfl
    | true =>
      simp only [signed, if_true, if_false, Bool.false_eq_true] at h
      exact .inr (by omega)
  | true =>
    cases t with
    | false =>
      simp only [signed, if_true, if_false, Bool.false_eq_true] at h
      exact .inr (by omega)
    | true => exact .inl rfl

theorem signed_mul (s : Bool) (m k : Nat) : signed s (m * k) = signed s m * k := by
  cases s with
  | false => exact Int.natCast_mul m k
  | true =>
    simp only [signed, if_true, Int.natCast_mul]
    exact (Int.neg_mul _ _).symm

theorem isIntegral_finite_iff {s : Bool} {n : Nat} {h : Format.double.Holds n} :
    (finite s n h).isIntegral = true ↔ (unitsPerOne : Int) ∣ signed s n := by
  cases s <;> simp [isIntegral, signed, Int.natCast_dvd_natCast, Nat.dvd_iff_mod_eq_zero]

theorem isIntegral_eq_false_iff (x : Double) :
    x.isIntegral = false ↔ ∀ u, x.units? = some u → ¬ (unitsPerOne : Int) ∣ u := by
  cases x with
  | nan | infinite s => simp [isIntegral, units?]
  | finite s n h => simp [units?, ← isIntegral_finite_iff (h := h)]

/-- A double from 2⁵³ on is integral. -/
theorem lt_of_not_integral {n : Nat} (h : Format.double.Holds n) (hn : n % unitsPerOne ≠ 0) :
    n < 2 ^ (53 : Nat) * unitsPerOne := by
  refine Nat.not_le.mp fun hge => hn (Nat.mod_eq_zero_of_dvd (Nat.dvd_trans ?_ h.1))
  have hle : 2 ^ (53 + unitExponent) ≤ n := by
    rw [Nat.pow_add]
    exact hge
  have hne : n ≠ 0 := fun h0 => hn (by rw [h0, Nat.zero_mod])
  have hlog : 53 + unitExponent ≤ n.log2 := (Nat.le_log2 hne).mpr hle
  refine Nat.pow_dvd_pow 2 ?_
  rw [Format.grain, Format.double_precision, Format.double_lowest]
  omega

theorem holds_of_le {k : Nat} (hk : k ≤ 2 ^ (53 : Nat)) :
    Format.double.Holds (k * unitsPerOne) := by
  constructor
  · refine Format.grain_dvd_of_le Format.double_precision_pos ?_ ?_
    · rw [Format.double_lowest]
      exact Nat.zero_le _
    · rw [Format.double_precision]
      exact hk
  · have hle : k * unitsPerOne ≤ 2 ^ (53 + unitExponent) := by
      rw [Nat.pow_add]
      exact Nat.mul_le_mul_right _ hk
    refine Nat.lt_of_le_of_lt hle (Nat.pow_lt_pow_right (by decide) ?_)
    rw [Format.double_limit, unitExponent]
    decide

/-- An integer less than one above a double, and equal to it if the double is integral, is a double
again. -/
theorem holds_of_near {k n : Nat} (h : Format.double.Holds n)
    (hnear : k * unitsPerOne < n + unitsPerOne)
    (hexact : n % unitsPerOne = 0 → k * unitsPerOne = n) :
    Format.double.Holds (k * unitsPerOne) := by
  by_cases hn : n % unitsPerOne = 0
  · rw [hexact hn]
    exact h
  · refine holds_of_le ?_
    have hlt := lt_of_not_integral h hn
    have hmul : k * unitsPerOne < (2 ^ (53 : Nat) + 1) * unitsPerOne := by
      rw [Nat.add_mul, Nat.one_mul]
      omega
    exact Nat.le_of_lt_succ (Nat.lt_of_mul_lt_mul_right hmul)

theorem fromInt_of_holds {k : Int} (h : Format.double.Holds (k.natAbs * unitsPerOne)) :
    fromInt k = .ok (.finite (k < 0) (k.natAbs * unitsPerOne) h) := by
  have hof : ofInt k = .finite (k < 0) (k.natAbs * unitsPerOne) h := by
    have hone := ofRatio_of_holds (s := decide (k < 0)) h Nat.one_pos
    rwa [Nat.mul_one] at hone
  rw [fromInt, hof]
  rfl

theorem fromInt_natCast {k : Nat} (h : Format.double.Holds (k * unitsPerOne)) :
    fromInt k = .ok (.finite false (k * unitsPerOne) h) := by
  rw [fromInt_of_holds (k := k) h]
  simp

/-! ## Down and up -/

/-- A way of rounding units to an integer that moves less than one and leaves integers alone. -/
def Rounds (round : Int → Int) : Prop :=
  ∀ m : Int, (round m).natAbs * unitsPerOne < m.natAbs + unitsPerOne ∧
    (m.natAbs % unitsPerOne = 0 → (round m).natAbs * unitsPerOne = m.natAbs)

section Rounds

variable {round : Int → Int}

theorem rounds_floor : Rounds fun m => m / (unitsPerOne : Int) := by
  intro m
  have hU : (0 : Int) < unitsPerOne := Int.natCast_pos.mpr unitsPerOne_pos
  have hbelow := Int.ediv_mul_le m (Int.ne_of_gt hU)
  have habove := Int.lt_ediv_add_one_mul_self m hU
  rw [Int.add_mul, Int.one_mul] at habove
  have hcast : (m / unitsPerOne : Int).natAbs * unitsPerOne =
      (m / unitsPerOne * unitsPerOne).natAbs := by
    rw [Int.natAbs_mul, Int.natAbs_natCast]
  simp only [hcast]
  constructor
  · omega
  · intro h
    rw [Int.ediv_mul_cancel (Int.ofNat_dvd_left.mpr (Nat.dvd_of_mod_eq_zero h))]

theorem rounds_ceil : Rounds fun m => -(-m / (unitsPerOne : Int)) := by
  intro m
  have h := rounds_floor (-m)
  rw [Int.natAbs_neg] at h
  simpa only [Int.natAbs_neg] using h

/-- The integer that a finite double is rounded to is a double. -/
theorem throughInt_finite (hround : Rounds round) (s : Bool) {n : Nat}
    (h : Format.double.Holds n) :
    ∃ hk, throughInt (toIntBy round) (.finite s n h) =
      .ok (.finite (round (signed s n) < 0) ((round (signed s n)).natAbs * unitsPerOne) hk) := by
  obtain ⟨hnear, hexact⟩ := hround (signed s n)
  rw [natAbs_signed] at hnear hexact
  have hk := holds_of_near h hnear hexact
  exact ⟨hk, fromInt_of_holds hk⟩

/-- A double that is an integer goes through it unchanged. -/
theorem throughInt_integer (hexact : ∀ k, round (k * unitsPerOne) = k) {k : Int}
    (h : Format.double.Holds (k.natAbs * unitsPerOne)) :
    throughInt (toIntBy round) (.finite (k < 0) (k.natAbs * unitsPerOne) h) =
      .ok (.finite (k < 0) (k.natAbs * unitsPerOne) h) := by
  rw [throughInt, toIntBy, signed_mul, signed_natAbs, hexact]
  exact fromInt_of_holds h

end Rounds

/-! ## A half away from zero -/

theorem whole_holds {n : Nat} (h : Format.double.Holds n) :
    Format.double.Holds (n / unitsPerOne * unitsPerOne) :=
  h.div_two_pow unitExponent

theorem rest_holds {n : Nat} (h : Format.double.Holds n) : Format.double.Holds (n % unitsPerOne) :=
  h.mod_two_pow unitExponent

/-- What is left of a double above its whole part is exact. -/
theorem sub_whole {n : Nat} (h : Format.double.Holds n) :
    (finite false n h).sub (.finite false (n / unitsPerOne * unitsPerOne) (whole_holds h)) =
      .finite false (n % unitsPerOne) (rest_holds h) := by
  have hunits : signed false n + signed (!false) (n / unitsPerOne * unitsPerOne) =
      ((n % unitsPerOne : Nat) : Int) := by
    have hdiv := Nat.div_add_mod' n unitsPerOne
    simp only [signed, Bool.not_false, Bool.false_eq_true, if_true, if_false]
    omega
  have hsign : (if ((n % unitsPerOne : Nat) : Int) = 0 then false && !false
      else decide (((n % unitsPerOne : Nat) : Int) < 0)) = false := by
    split
    · rfl
    · exact decide_eq_false (by omega)
  have hone := ofRatio_of_holds (s := false) (rest_holds h) Nat.one_pos
  rw [Nat.mul_one] at hone
  show ofUnits (false && !false) (signed false n + signed (!false) _) = _
  rw [hunits, ofUnits, hsign, Int.natAbs_natCast]
  exact hone

theorem le_finite {s t : Bool} {m n : Nat} {hm : Format.double.Holds m}
    {hn : Format.double.Holds n} :
    (finite s m hm).le (.finite t n hn) = true ↔ signed s m ≤ signed t n := by
  simp only [le, lt, eq, order?, rank?, Bool.or_eq_true, decide_eq_true_eq, Option.some.injEq,
    Int.compare_eq_lt, Int.compare_eq_eq]
  omega

theorem exists_half : ∃ (n : Nat) (h : Format.double.Holds n),
    half = .finite false n h ∧ unitsPerOne = n * 2 := by
  obtain ⟨k, hk⟩ : ∃ k, unitExponent = k + 1 := by
    refine ⟨1073, ?_⟩
    unfold unitExponent
    rfl
  have hunits : unitsPerOne = 1 * 2 ^ k * 2 := by
    rw [unitsPerOne, hk, Nat.pow_succ, Nat.one_mul]
  have hholds : Format.double.Holds (1 * 2 ^ k) := by
    refine ⟨Format.grain_dvd_of_le Format.double_precision_pos ?_ (Nat.two_pow_pos _), ?_⟩
    · rw [Format.double_lowest]
      exact Nat.zero_le _
    · rw [Nat.one_mul]
      refine Nat.pow_lt_pow_right (by decide) ?_
      rw [Format.double_limit]
      unfold unitExponent at hk
      omega
  refine ⟨_, hholds, ?_, hunits⟩
  rw [half, hunits]
  exact ofRatio_of_holds hholds (by decide)

theorem half_le_iff {n : Nat} {h : Format.double.Holds n} :
    half.le (.finite false n h) = true ↔ unitsPerOne ≤ 2 * n := by
  obtain ⟨m, hm, hhalf, hunits⟩ := exists_half
  rw [hhalf, le_finite, hunits]
  simp only [signed, Bool.false_eq_true, if_false]
  omega

/-- The integer nearest to a number of units, a half going up. -/
def nearestWhole (n : Nat) : Nat :=
  if unitsPerOne ≤ 2 * (n % unitsPerOne) then n / unitsPerOne + 1 else n / unitsPerOne

theorem nearestWhole_holds {n : Nat} (h : Format.double.Holds n) :
    Format.double.Holds (nearestWhole n * unitsPerOne) := by
  have hpos := unitsPerOne_pos
  have hdiv := Nat.div_add_mod' n unitsPerOne
  unfold nearestWhole
  split
  · refine holds_of_near h ?_ ?_ <;> rw [Nat.add_mul, Nat.one_mul] <;> omega
  · exact whole_holds h

/-- The nearest integer is at most a half away, and not a half below. -/
theorem nearestWhole_bounds (n : Nat) :
    2 * (nearestWhole n * unitsPerOne) ≤ 2 * n + unitsPerOne ∧
      2 * n + unitsPerOne < 2 * (nearestWhole n * unitsPerOne) + 2 * unitsPerOne := by
  have hpos := unitsPerOne_pos
  have hdiv := Nat.div_add_mod' n unitsPerOne
  have hmod := Nat.mod_lt n hpos
  unfold nearestWhole
  split
  · rw [Nat.add_mul, Nat.one_mul]
    omega
  · omega

theorem nearestWhole_mul (m : Nat) : nearestWhole (m * unitsPerOne) = m := by
  have hpos := unitsPerOne_pos
  rw [nearestWhole, Nat.mul_mod_left, Nat.mul_div_cancel _ hpos, if_neg (by omega)]

theorem stepFrom_whole {n : Nat} (h : Format.double.Holds n) :
    stepFrom (n / unitsPerOne : Nat) (.finite false n h) (.finite false _ (whole_holds h)) =
      (nearestWhole n : Nat) := by
  rw [stepFrom, sub_whole h, nearestWhole]
  by_cases hhalf : unitsPerOne ≤ 2 * (n % unitsPerOne)
  · rw [if_pos (half_le_iff.mpr hhalf), if_pos hhalf, Int.natCast_succ]
  · rw [if_neg (mt half_le_iff.mp hhalf), if_neg hhalf]

/-- No step on the way to the nearest integer loses anything. -/
theorem throughInt_roundToInt {n : Nat} (h : Format.double.Holds n) :
    throughInt roundToInt (.finite false n h) =
      .ok (.finite false (nearestWhole n * unitsPerOne) (nearestWhole_holds h)) := by
  have hfloor : (finite false n h).floorToInt = .ok ((n / unitsPerOne : Nat) : Int) := by
    rw [Int.natCast_ediv]
    rfl
  have hround : (finite false n h).roundToInt = .ok (nearestWhole n : Nat) := by
    have hstep := congrArg (Except.map (stepFrom (n / unitsPerOne : Nat) (.finite false n h)))
      (fromInt_natCast (whole_holds h))
    rw [roundToInt, hfloor]
    exact hstep.trans (congrArg Except.ok (stepFrom_whole h))
  rw [throughInt, hround]
  exact fromInt_natCast (nearestWhole_holds h)

/-- Adding a half to the last double below a half would give one. -/
example :
    let x := ofBits 0x3fdfffffffffffff
    (x.add half).floorToInt.toOption = some 1 ∧ x.roundToInt.toOption = some 0 := by
  decide +kernel

end Double
end Formula
