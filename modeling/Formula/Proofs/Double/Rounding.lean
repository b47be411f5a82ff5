import Formula.Proofs.Double.Integral
import Formula.Proofs.Double.Order

/-!
# Formula.Proofs.Double.Rounding

Rounding into a format never changes the order of two magnitudes (`Format.snap_mono`), and leaves
the range of the format from half a grain below its end on (`Format.snap_lt_iff`). So the doubles
nearest to two integers are in the order of the integers, or equal (`Double.nearestUnits_mono`).
-/

-- Powers are taken with the instance of the core library, whatever other instances are known.
attribute [local instance (10000)] instPowNat

namespace Formula

namespace Format

variable {f : Format} {m n v : Nat}

theorem le_nearest (num den : Nat) : num / den ≤ nearest num den := by
  unfold nearest
  split
  · omega
  · split <;> omega

theorem nearest_mono {a b : Nat} (den : Nat) (h : a ≤ b) : nearest a den ≤ nearest b den := by
  have hdiv : a / den ≤ b / den := Nat.div_le_div_right h
  rcases Nat.lt_or_eq_of_le hdiv with hlt | heq
  · exact Nat.le_trans (nearest_le a den) (Nat.le_trans hlt (le_nearest b den))
  · -- With the same integer part the rests are in the order of the numbers.
    have hmod : a % den ≤ b % den := by
      have ha := Nat.div_add_mod a den
      have hb := Nat.div_add_mod b den
      rw [heq] at ha
      omega
    by_cases ha : 2 * (a % den) < den
    · calc nearest a den
        _ = a / den := if_pos ha
        _ ≤ b / den := hdiv
        _ ≤ nearest b den := le_nearest b den
    by_cases hb : den < 2 * (b % den)
    · calc nearest a den
        _ ≤ a / den + 1 := nearest_le a den
        _ = nearest b den := by
          unfold nearest
          rw [heq, if_neg (by omega), if_pos hb]
    · unfold nearest
      rw [heq, if_neg (by omega), if_neg (by omega), if_neg (by omega), if_neg (by omega)]

theorem snap_one (f : Format) (n : Nat) :
    f.snap n 1 = nearest n (2 ^ f.grain n) * 2 ^ f.grain n := by
  unfold snap
  rw [Nat.div_one, Nat.one_mul]

theorem nearest_of_dvd {den : Nat} (hden : 0 < den) (h : den ∣ v) : nearest v den * den = v := by
  obtain ⟨k, rfl⟩ := h
  rw [Nat.mul_comm den k, nearest_mul hden]

theorem snap_of_dvd (h : 2 ^ f.grain n ∣ n) : f.snap n 1 = n := by
  rw [snap_one, nearest_of_dvd (Nat.two_pow_pos _) h]

/-- Rounding does not go beyond a multiple of the grain, in either direction. -/
theorem snap_le (h : n ≤ v) (hv : 2 ^ f.grain n ∣ v) : f.snap n 1 ≤ v :=
  calc f.snap n 1
    _ = nearest n (2 ^ f.grain n) * 2 ^ f.grain n := f.snap_one n
    _ ≤ nearest v (2 ^ f.grain n) * 2 ^ f.grain n := Nat.mul_le_mul_right _ (nearest_mono _ h)
    _ = v := nearest_of_dvd (Nat.two_pow_pos _) hv

theorem le_snap (h : v ≤ n) (hv : 2 ^ f.grain n ∣ v) : v ≤ f.snap n 1 :=
  calc v
    _ = nearest v (2 ^ f.grain n) * 2 ^ f.grain n := (nearest_of_dvd (Nat.two_pow_pos _) hv).symm
    _ ≤ nearest n (2 ^ f.grain n) * 2 ^ f.grain n := Nat.mul_le_mul_right _ (nearest_mono _ h)
    _ = f.snap n 1 := (f.snap_one n).symm

theorem snap_mono (hp : 0 < f.precision) (h : m ≤ n) : f.snap m 1 ≤ f.snap n 1 := by
  rcases Nat.lt_or_eq_of_le (grain_mono (f := f) h) with hlt | heq
  · -- A power of two stands between them, and it is a multiple of both grains.
    have hexponent : m.log2 < n.log2 ∧ f.grain n ≤ n.log2 := by
      unfold grain at hlt ⊢
      omega
    have hn : n ≠ 0 := by
      rintro rfl
      exact absurd hexponent.1 (Nat.not_lt_zero _)
    have hbelow : m ≤ 2 ^ n.log2 := Nat.le_trans (Nat.le_of_lt (lt_two_pow_log2 m))
      (Nat.pow_le_pow_right (by decide) hexponent.1)
    calc f.snap m 1
      _ ≤ 2 ^ n.log2 := snap_le hbelow (Nat.pow_dvd_pow 2 (by omega))
      _ ≤ f.snap n 1 := le_snap (Nat.log2_self_le hn) (Nat.pow_dvd_pow 2 hexponent.2)
  · rw [snap_one, snap_one, heq]
    exact Nat.mul_le_mul_right _ (nearest_mono _ h)

theorem nearest_add {r den : Nat} (k : Nat) (h : r < den) : nearest (r + k * den) den =
    if 2 * r < den then k else if den < 2 * r then k + 1 else k + k % 2 := by
  have hdiv : (r + k * den) / den = k := by
    rw [Nat.add_mul_div_right _ _ (by omega), Nat.div_eq_of_lt h, Nat.zero_add]
  have hmod : (r + k * den) % den = r := by
    rw [Nat.add_mul_mod_self_right, Nat.mod_eq_of_lt h]
  unfold nearest
  rw [hdiv, hmod]

/-- The least magnitude that is rounded out of the range: half a grain below the end of it. -/
def threshold (f : Format) : Nat :=
  2 ^ f.limit - 2 ^ (f.limit - f.precision - 1)

section Threshold

variable (hp : 0 < f.precision) (hroom : f.lowest + f.precision < f.limit)

include hp hroom

theorem grain_of_last (h : 2 ^ (f.limit - 1) ≤ n) (hn : n < 2 ^ f.limit) :
    f.grain n = f.limit - f.precision := by
  have hne : n ≠ 0 := Nat.ne_of_gt (Nat.lt_of_lt_of_le (Nat.two_pow_pos _) h)
  have hlog : n.log2 = f.limit - 1 := by
    refine (Nat.log2_eq_iff hne).mpr ⟨h, ?_⟩
    rwa [Nat.sub_add_cancel (by omega)]
  unfold grain
  omega

/-- The last values of the format are the multiples of twice a half, up to an odd one. -/
theorem exists_last : ∃ half last, 0 < half ∧ last % 2 = 1 ∧
    2 ^ f.limit = 2 * half + last * (2 * half) ∧ f.threshold = half + last * (2 * half) ∧
    ∀ r, r ≤ half → 2 ^ f.grain (r + last * (2 * half)) = 2 * half := by
  have hhalf : 0 < 2 ^ (f.limit - f.precision - 1) := Nat.two_pow_pos _
  have hgrain : 2 ^ (f.limit - f.precision) = 2 * 2 ^ (f.limit - f.precision - 1) := by
    rw [← Nat.pow_add_one', Nat.sub_add_cancel (by omega)]
  have hdigits : 2 ^ f.precision = 2 * 2 ^ (f.precision - 1) := by
    rw [← Nat.pow_add_one', Nat.sub_add_cancel hp]
  have htwice : 2 ^ f.limit = 2 * 2 ^ (f.limit - 1) := by
    rw [← Nat.pow_add_one', Nat.sub_add_cancel (by omega)]
  -- The end of the range is as many grains away as there are numbers of `precision` digits.
  have hlimit : 2 ^ f.limit = 2 * 2 ^ (f.limit - f.precision - 1) +
      (2 ^ f.precision - 1) * (2 * 2 ^ (f.limit - f.precision - 1)) :=
    calc 2 ^ f.limit
      _ = 2 ^ f.precision * 2 ^ (f.limit - f.precision) := by
        rw [← Nat.pow_add, Nat.add_sub_cancel' (by omega)]
      _ = (1 + (2 ^ f.precision - 1)) * (2 * 2 ^ (f.limit - f.precision - 1)) := by
        rw [Nat.add_sub_cancel' (Nat.two_pow_pos _), hgrain]
      _ = _ := by rw [Nat.add_mul, Nat.one_mul]
  have hpos : 0 < 2 ^ (f.precision - 1) := Nat.two_pow_pos _
  have hlast : 2 * 2 ^ (f.limit - f.precision - 1) ≤
      (2 ^ f.precision - 1) * (2 * 2 ^ (f.limit - f.precision - 1)) :=
    Nat.le_mul_of_pos_left _ (by omega)
  refine ⟨2 ^ (f.limit - f.precision - 1), 2 ^ f.precision - 1, hhalf, by omega, hlimit, ?_, ?_⟩
  · unfold threshold
    omega
  · intro r hr
    rw [grain_of_last hp hroom (by omega) (by omega), hgrain]

/-- Rounding stays in the range up to the threshold: there a half goes up, as the last value below
is an odd one. -/
theorem snap_lt_iff : f.snap n 1 < 2 ^ f.limit ↔ n < f.threshold := by
  obtain ⟨half, last, hhalf, hodd, hlimit, hthreshold, hgrain⟩ := exists_last hp hroom
  constructor
  · refine fun h => Nat.lt_of_not_le fun hle => absurd h (Nat.not_lt.mpr ?_)
    calc 2 ^ f.limit
      _ = (last + 1) * (2 * half) := by rw [hlimit, Nat.add_mul, Nat.one_mul, Nat.add_comm]
      _ = f.snap f.threshold 1 := by
        rw [snap_one, hthreshold, hgrain half (Nat.le_refl _), nearest_add last (by omega),
          if_neg (by omega), if_neg (by omega), hodd]
      _ ≤ f.snap n 1 := snap_mono hp hle
  · intro h
    calc f.snap n 1
      _ ≤ f.snap (half - 1 + last * (2 * half)) 1 := snap_mono hp (by omega)
      _ = last * (2 * half) := by
        rw [snap_one, hgrain _ (by omega), nearest_add last (by omega), if_pos (by omega)]
      _ < 2 ^ f.limit := by omega

end Threshold

end Format

namespace Double

variable {s : Bool} {num den : Nat} {n a b : Int}

theorem ofRatio_of_lt (h : Format.double.snap num den < 2 ^ Format.double.limit) :
    ofRatio s num den = .finite s (Format.double.snap num den)
      ⟨Format.snap_dvd Format.double_precision_pos num den, h⟩ :=
  ofRatio_of_round (if_pos h)

theorem ofRatio_of_le (h : 2 ^ Format.double.limit ≤ Format.double.snap num den) :
    ofRatio s num den = .infinite s := by
  have hround : Format.double.round num den = none := if_neg (Nat.not_lt.mpr h)
  unfold ofRatio
  split
  · rename_i m hm
    cases hround.symm.trans hm
  · rfl

/-- The least magnitude that is rounded to no finite double: the last of these is as far below it as
2¹⁰²⁴ is above it. -/
@[irreducible] def bound : Nat := 2 ^ (1024 : Nat) - 2 ^ (970 : Nat)

theorem threshold_double : Format.double.threshold = bound * unitsPerOne := by
  have hlimit : 2098 = 1024 + unitExponent := by
    unfold unitExponent
    rfl
  have hhalf : 2098 - 53 - 1 = 970 + unitExponent := by
    unfold unitExponent
    rfl
  have hmul (i j : Nat) : (2 ^ i - 2 ^ j) * unitsPerOne =
      2 ^ (i + unitExponent) - 2 ^ (j + unitExponent) := by
    rw [unitsPerOne, Nat.sub_mul, Nat.pow_add, Nat.pow_add]
  rw [Format.threshold, Format.double_precision, Format.double_limit, hhalf, hlimit]
  unfold bound
  exact (hmul 1024 970).symm

theorem ofInt_isFinite_iff : (ofInt n).isFinite = true ↔ n.natAbs < bound := by
  have hroom : Format.double.lowest + Format.double.precision < Format.double.limit := by
    rw [Format.double_lowest, Format.double_precision, Format.double_limit]
    decide
  have hsnap := Format.snap_lt_iff (n := n.natAbs * unitsPerOne) Format.double_precision_pos hroom
  rw [threshold_double, Nat.mul_lt_mul_right unitsPerOne_pos] at hsnap
  rw [← hsnap, ofInt]
  constructor
  · intro h
    refine Nat.lt_of_not_le fun hle => ?_
    rw [ofRatio_of_le hle] at h
    cases h
  · intro h
    rw [ofRatio_of_lt h]
    rfl

/-- The value of the double nearest to an integer, in units. -/
def nearestUnits (n : Int) : Int :=
  signed (n < 0) (Format.double.snap (n.natAbs * unitsPerOne) 1)

theorem extended?_ofInt (h : (ofInt n).isFinite = true) :
    (ofInt n).extended? = some ((nearestUnits n : WithTop Int) : WithBot (WithTop Int)) := by
  rw [ofInt] at h ⊢
  rcases Nat.lt_or_ge (Format.double.snap (n.natAbs * unitsPerOne) 1)
    (2 ^ Format.double.limit) with hlt | hge
  · rw [ofRatio_of_lt hlt]
    rfl
  · rw [ofRatio_of_le hge] at h
    cases h

theorem nearestUnits_of_neg (h : n < 0) :
    nearestUnits n = -(Format.double.snap (n.natAbs * unitsPerOne) 1 : Int) :=
  if_pos (decide_eq_true h)

theorem nearestUnits_of_nonneg (h : 0 ≤ n) :
    nearestUnits n = Format.double.snap (n.natAbs * unitsPerOne) 1 :=
  if_neg (by simp [h])

/-- The doubles nearest to two integers are in their order. -/
theorem nearestUnits_mono (h : a ≤ b) : nearestUnits a ≤ nearestUnits b := by
  have hsnap {m n : Nat} (hmn : m ≤ n) : Format.double.snap (m * unitsPerOne) 1 ≤
      Format.double.snap (n * unitsPerOne) 1 :=
    Format.snap_mono Format.double_precision_pos (Nat.mul_le_mul_right _ hmn)
  rcases lt_or_ge a 0 with ha | ha
  · rcases lt_or_ge b 0 with hb | hb
    · have hba : b.natAbs ≤ a.natAbs := by omega
      rw [nearestUnits_of_neg ha, nearestUnits_of_neg hb]
      exact Int.neg_le_neg (Int.ofNat_le.mpr (hsnap hba))
    · rw [nearestUnits_of_neg ha, nearestUnits_of_nonneg hb]
      omega
  · have hab : a.natAbs ≤ b.natAbs := by omega
    rw [nearestUnits_of_nonneg ha, nearestUnits_of_nonneg (Int.le_trans ha h)]
    exact Int.ofNat_le.mpr (hsnap hab)

theorem nearestUnits_of_le (h : n.natAbs ≤ 2 ^ (53 : Nat)) : nearestUnits n = n * unitsPerOne := by
  rw [nearestUnits, Format.snap_of_dvd (holds_of_le h).1, signed_mul, signed_natAbs]

end Double

end Formula
