/-!
# Formula.Double.Format

Binary floating-point formats and rounding into them. Magnitudes are counted in *units*: one
unit is 2⁻¹⁰⁷⁴, the least positive double, so every finite value of every format here is a
natural number of units and all arithmetic on them is exact.

`round_holds` says that rounding lands in the format, `round_of_holds` that it leaves the values of
the format alone.
-/

-- Powers are taken with the instance of the core library, whatever other instances are known.
attribute [local instance (10000)] instPowNat

namespace Formula

/-- One is 2 to this power of units. -/
@[irreducible] def unitExponent : Nat := 1074

/-- The number of units in one. -/
def unitsPerOne : Nat := 2 ^ unitExponent

theorem unitsPerOne_pos : 0 < unitsPerOne := Nat.two_pow_pos _

/-- A format keeps `precision` binary digits, has no spacing below `2 ^ lowest` units, and ends
below `2 ^ limit` units. -/
structure Format where
  precision : Nat
  lowest : Nat
  limit : Nat
deriving DecidableEq

namespace Format

/-- Double precision, with values below 2¹⁰²⁴. -/
@[irreducible] def double : Format := ⟨53, 0, 2098⟩

/-- Single precision, with values below 2¹²⁸ that are multiples of 2⁻¹⁴⁹. -/
@[irreducible] def single : Format := ⟨24, 925, 1202⟩

theorem double_precision : double.precision = 53 := by unfold double; rfl

theorem double_lowest : double.lowest = 0 := by unfold double; rfl

theorem double_limit : double.limit = 2098 := by unfold double; rfl

theorem single_precision : single.precision = 24 := by unfold single; rfl

theorem single_lowest : single.lowest = 925 := by unfold single; rfl

theorem single_limit : single.limit = 1202 := by unfold single; rfl

theorem double_precision_pos : 0 < double.precision := by rw [double_precision]; decide

theorem single_precision_pos : 0 < single.precision := by rw [single_precision]; decide

/-- The values of the format around `n` units are the multiples of 2 to this power. -/
def grain (f : Format) (n : Nat) : Nat :=
  max (n.log2 + 1 - f.precision) f.lowest

/-- `n` units are a finite magnitude of the format. -/
def Holds (f : Format) (n : Nat) : Prop :=
  2 ^ f.grain n ∣ n ∧ n < 2 ^ f.limit

instance (f : Format) (n : Nat) : Decidable (f.Holds n) :=
  inferInstanceAs (Decidable (_ ∧ _))

/-- The integer nearest to `num / den`; a half goes to the even neighbour. -/
def nearest (num den : Nat) : Nat :=
  if 2 * (num % den) < den then num / den
  else if den < 2 * (num % den) then num / den + 1
  else num / den + num / den % 2

/-- The multiple of the grain nearest to `num / den` units. -/
def snap (f : Format) (num den : Nat) : Nat :=
  nearest num (den * 2 ^ f.grain (num / den)) * 2 ^ f.grain (num / den)

theorem nearest_le (num den : Nat) : nearest num den ≤ num / den + 1 := by
  unfold nearest
  split
  · omega
  · split <;> omega

theorem lt_two_pow_log2 (n : Nat) : n < 2 ^ (n.log2 + 1) := Nat.lt_log2_self

theorem div_grain_lt (f : Format) (n : Nat) : n / 2 ^ f.grain n < 2 ^ f.precision := by
  have h : n < 2 ^ (n.log2 + 1) := lt_two_pow_log2 n
  have hg : n.log2 + 1 ≤ f.precision + f.grain n := by unfold grain; omega
  rw [Nat.div_lt_iff_lt_mul (Nat.two_pow_pos _), ← Nat.pow_add]
  exact Nat.lt_of_lt_of_le h (Nat.pow_le_pow_right (by decide) hg)

theorem log2_lt_of_lt {n k : Nat} (hk : 0 < k) (h : n < 2 ^ k) : n.log2 < k := by
  by_cases hn : n = 0
  · subst hn; simpa using hk
  · exact (Nat.log2_lt hn).2 h

/-- A multiple of a grain `g` that has at most `precision` digits above it is in the format. -/
theorem grain_dvd_of_le {f : Format} (hp : 0 < f.precision) {k g : Nat} (hg : f.lowest ≤ g)
    (hk : k ≤ 2 ^ f.precision) : 2 ^ f.grain (k * 2 ^ g) ∣ k * 2 ^ g := by
  rcases Nat.lt_or_eq_of_le hk with hlt | heq
  · have hn : k * 2 ^ g < 2 ^ (f.precision + g) := by
      rw [Nat.pow_add]
      exact Nat.mul_lt_mul_of_pos_right hlt (Nat.two_pow_pos g)
    have hl : (k * 2 ^ g).log2 < f.precision + g := log2_lt_of_lt (by omega) hn
    have hle : f.grain (k * 2 ^ g) ≤ g := by unfold grain; omega
    exact Nat.dvd_trans (Nat.pow_dvd_pow 2 hle) (Nat.dvd_mul_left _ _)
  · subst heq
    rw [← Nat.pow_add]
    refine Nat.pow_dvd_pow 2 ?_
    unfold grain
    rw [Nat.log2_two_pow]
    omega

theorem snap_dvd {f : Format} (hp : 0 < f.precision) (num den : Nat) :
    2 ^ f.grain (f.snap num den) ∣ f.snap num den := by
  unfold snap
  refine grain_dvd_of_le hp (Nat.le_max_right _ _) ?_
  have h := nearest_le num (den * 2 ^ f.grain (num / den))
  rw [← Nat.div_div_eq_div_mul] at h
  have hlt := div_grain_lt f (num / den)
  omega

/-- The value of the format nearest to `num / den` units, a half going to the even neighbour;
none if that lies beyond the format's range. -/
def round (f : Format) (num den : Nat) : Option Nat :=
  if f.snap num den < 2 ^ f.limit then some (f.snap num den) else none

theorem round_holds {f : Format} (hp : 0 < f.precision) {num den n : Nat}
    (h : f.round num den = some n) : f.Holds n := by
  unfold round at h
  split at h
  · cases h
    exact ⟨snap_dvd hp num den, ‹_›⟩
  · cases h

theorem nearest_mul {k den : Nat} (h : 0 < den) : nearest (k * den) den = k := by
  unfold nearest
  rw [Nat.mul_mod_left, Nat.mul_div_cancel k h, if_pos (by omega)]

/-- A ratio that is a value of the format is left alone. -/
theorem round_of_holds {f : Format} {n den : Nat} (hn : f.Holds n) (h : 0 < den) :
    f.round (n * den) den = some n := by
  obtain ⟨⟨k, hk⟩, hlt⟩ := hn
  have hs : f.snap (n * den) den = n := by
    unfold snap
    rw [Nat.mul_div_cancel n h]
    have hm : n * den = k * (den * 2 ^ f.grain n) := by
      conv => lhs; rw [hk]
      ac_rfl
    rw [hm, nearest_mul (Nat.mul_pos h (Nat.two_pow_pos _)), Nat.mul_comm]
    exact hk.symm
  unfold round
  rw [hs, if_pos hlt]

end Format
end Formula
