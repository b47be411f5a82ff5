import Mathlib.Tactic.Positivity
import Formula.Proofs.Decimal.Value
import Formula.Proofs.Double.Integral

/-!
# Formula.Proofs.Decimal.Place

Where the first digit of a shortest decimal stands. Every grid that the search tries holds the
power of ten at or below the exact value, so a shortest decimal never lies across a power of ten
from it (`keepsPowers_shortest`). For a double that is not integral this decides the layout:
positional exactly from one ten-thousandth on (`neg_four_lt_place_iff`, `place_le_sixteen`).
-/

namespace Formula
namespace Decimal

/-- The value of `n` units. -/
def valueOfUnits (n : Nat) : ℚ := n / unitsPerOne

theorem unitsPerOne_cast_pos : (0 : ℚ) < unitsPerOne := by exact_mod_cast unitsPerOne_pos

/-- A decimal on the same side of every power of ten as `n` units, or on the power itself. -/
def KeepsPowers (n : Nat) (d : Decimal) : Prop :=
  ∀ k : ℤ, ((10 : ℚ) ^ k ≤ valueOfUnits n → (10 : ℚ) ^ k ≤ d.value) ∧
    (valueOfUnits n < (10 : ℚ) ^ k → d.value ≤ (10 : ℚ) ^ k)

theorem ten_zpow_pos (k : ℤ) : (0 : ℚ) < 10 ^ k := zpow_pos (by norm_num) k

/-! ## The search -/

theorem zpow_neg_le_div {num den k : Nat} (hd : 0 < den)
    (h : den ≤ num * 10 ^ k) : (10 : ℚ) ^ (-(k : ℤ)) ≤ (num : ℚ) / den := by
  have hdq : (0 : ℚ) < den := by exact_mod_cast hd
  have hq : (den : ℚ) ≤ num * 10 ^ k := by exact_mod_cast h
  rw [zpow_neg, zpow_natCast, le_div_iff₀ hdq, inv_mul_le_iff₀ (by positivity), mul_comm]
  exact hq

theorem zpow_magnitude_le {num den : Nat} (hn : 0 < num) (hd : 0 < den) :
    (10 : ℚ) ^ magnitude num den ≤ (num : ℚ) / den := by
  have hdq : (0 : ℚ) < den := by exact_mod_cast hd
  unfold magnitude
  split
  · rename_i hle
    have hq : 0 < num / den := Nat.div_pos hle hd
    have hlen := natDigits_length_pos (num / den)
    have hpow : 10 ^ ((natDigits (num / den)).length - 1) * den ≤ num :=
      (Nat.mul_le_mul_right den (pow_natDigits_le hq)).trans (Nat.div_mul_le_self num den)
    have hcast : ((natDigits (num / den)).length : ℤ) - 1 =
        ((natDigits (num / den)).length - 1 : Nat) := by omega
    rw [hcast, zpow_natCast, le_div_iff₀ hdq]
    exact_mod_cast hpow
  · rename_i hlt
    have hlen := natDigits_length_pos (den / num)
    dsimp only
    split
    · rename_i hle
      have hcast : ((natDigits (den / num)).length : ℤ) - 1 =
          ((natDigits (den / num)).length - 1 : Nat) := by omega
      rw [hcast]
      exact zpow_neg_le_div hd hle
    · refine zpow_neg_le_div hd ?_
      have hup : den / num < 10 ^ (natDigits (den / num)).length := lt_pow_natDigits _
      rw [Nat.div_lt_iff_lt_mul hn, Nat.mul_comm] at hup
      exact hup.le

/-- The lower neighbour on a grid is the exact value rounded down. -/
theorem neighbours_spec (n : Nat) (e : ℤ) : ∃ below nearerAbove,
    neighbours n e = (below, below + 1, nearerAbove) ∧
      (below : ℚ) * 10 ^ e ≤ valueOfUnits n ∧ valueOfUnits n < (below + 1) * 10 ^ e := by
  have hfloor : ∀ a b : Nat, 0 < b →
      (((a / b : Nat) : ℚ) ≤ (a : ℚ) / b ∧ (a : ℚ) / b < ((a / b : Nat) : ℚ) + 1) := by
    intro a b hb
    have hbq : (0 : ℚ) < b := by exact_mod_cast hb
    constructor
    · rw [le_div_iff₀ hbq]
      exact_mod_cast Nat.div_mul_le_self a b
    · rw [div_lt_iff₀ hbq]
      rw [mul_comm]
      exact_mod_cast Nat.lt_mul_div_succ a hb
  have hu := unitsPerOne_cast_pos
  cases e with
  | ofNat e =>
    refine ⟨_, _, rfl, ?_⟩
    have hpos : 0 < unitsPerOne * 10 ^ e := Nat.mul_pos unitsPerOne_pos (Nat.pow_pos (by decide))
    obtain ⟨hlow, hhigh⟩ := hfloor n (unitsPerOne * 10 ^ e) hpos
    have hsplit : (n : ℚ) / (unitsPerOne * 10 ^ e : Nat) * 10 ^ e = valueOfUnits n := by
      unfold valueOfUnits
      push_cast
      field_simp
    rw [Int.ofNat_eq_natCast, zpow_natCast, ← hsplit]
    exact ⟨mul_le_mul_of_nonneg_right hlow (by positivity),
      mul_lt_mul_of_pos_right hhigh (by positivity)⟩
  | negSucc e =>
    refine ⟨_, _, rfl, ?_⟩
    obtain ⟨hlow, hhigh⟩ := hfloor (n * 10 ^ (e + 1)) unitsPerOne unitsPerOne_pos
    have hsplit : ((n * 10 ^ (e + 1) : Nat) : ℚ) / unitsPerOne * (10 ^ (e + 1))⁻¹ =
        valueOfUnits n := by
      unfold valueOfUnits
      push_cast
      field_simp
    rw [zpow_negSucc, ← hsplit]
    exact ⟨mul_le_mul_of_nonneg_right hlow (by positivity),
      mul_lt_mul_of_pos_right hhigh (by positivity)⟩

/-- Both neighbours keep the powers of ten, as soon as the grid is not coarser than the value. -/
theorem keepsPowers_neighbour {n below digits : Nat} {e : ℤ}
    (hlow : (below : ℚ) * 10 ^ e ≤ valueOfUnits n)
    (hhigh : valueOfUnits n < (below + 1) * 10 ^ e) (he : (10 : ℚ) ^ e ≤ valueOfUnits n)
    (hdigits : digits = below ∨ digits = below + 1) : KeepsPowers n ⟨digits, e⟩ := by
  have hpos := ten_zpow_pos e
  have hge : below ≤ digits := by omega
  have hle : digits ≤ below + 1 := by omega
  have hgeq : (below : ℚ) ≤ digits := by exact_mod_cast hge
  have hleq : (digits : ℚ) ≤ below + 1 := by exact_mod_cast hle
  intro k
  -- A power of ten at or above the spacing is a point of the grid.
  have hgrid : e ≤ k → ∃ m : Nat, (10 : ℚ) ^ k = m * 10 ^ e := by
    intro hek
    refine ⟨10 ^ (k - e).toNat, ?_⟩
    have hcast : ((k - e).toNat : ℤ) = k - e := Int.toNat_of_nonneg (by omega)
    push_cast
    rw [← zpow_natCast, hcast, ← zpow_add₀ (by norm_num), sub_add_cancel]
  constructor
  · intro hk
    rcases le_or_gt e k with hek | hke
    · obtain ⟨m, hm⟩ := hgrid hek
      have hlt : (m : ℚ) < below + 1 :=
        lt_of_mul_lt_mul_right ((hm ▸ hk).trans_lt hhigh) hpos.le
      have hmb : m ≤ below := by
        have : m < below + 1 := by exact_mod_cast hlt
        omega
      rw [hm]
      exact mul_le_mul_of_nonneg_right (by exact_mod_cast hmb.trans hge) hpos.le
    · have hone : 1 ≤ below := by
        have hlt : (1 : ℚ) < below + 1 :=
          lt_of_mul_lt_mul_right (by simpa using he.trans_lt hhigh) hpos.le
        have : 1 < below + 1 := by exact_mod_cast hlt
        omega
      calc (10 : ℚ) ^ k ≤ 10 ^ e := zpow_le_zpow_right₀ (by norm_num) hke.le
        _ = 1 * 10 ^ e := (one_mul _).symm
        _ ≤ digits * 10 ^ e :=
          mul_le_mul_of_nonneg_right (by exact_mod_cast hone.trans hge) hpos.le
  · intro hk
    have hek : e < k := by
      by_contra hke
      have hmono : (10 : ℚ) ^ k ≤ 10 ^ e := zpow_le_zpow_right₀ (by norm_num) (by omega)
      exact absurd (hk.trans_le (hmono.trans he)) (lt_irrefl _)
    obtain ⟨m, hm⟩ := hgrid hek.le
    have hlt : (below : ℚ) < m :=
      lt_of_mul_lt_mul_right ((hlow.trans_lt hk).trans_eq hm) hpos.le
    have hbm : below + 1 ≤ m := by
      have : below < m := by exact_mod_cast hlt
      omega
    rw [hm]
    exact mul_le_mul_of_nonneg_right (by exact_mod_cast hle.trans hbm) hpos.le

theorem keepsPowers_candidates {n precision : Nat} (hn : 0 < n) (hp : 1 ≤ precision) :
    ∀ d ∈ candidates n precision, KeepsPowers n d := by
  intro d hd
  obtain ⟨below, nearerAbove, hspec, hlow, hhigh⟩ :=
    neighbours_spec n (magnitude n unitsPerOne - (precision : ℤ) + 1)
  have he : (10 : ℚ) ^ (magnitude n unitsPerOne - (precision : ℤ) + 1) ≤ valueOfUnits n :=
    (zpow_le_zpow_right₀ (by norm_num) (by omega)).trans (zpow_magnitude_le hn unitsPerOne_pos)
  have hmem : d = ⟨below, magnitude n unitsPerOne - (precision : ℤ) + 1⟩ ∨
      d = ⟨below + 1, magnitude n unitsPerOne - (precision : ℤ) + 1⟩ := by
    simp only [candidates, hspec] at hd
    split at hd
    · simpa [or_comm] using hd
    · simpa using hd
  rcases hmem with rfl | rfl
  · exact keepsPowers_neighbour hlow hhigh he (.inl rfl)
  · exact keepsPowers_neighbour hlow hhigh he (.inr rfl)

theorem value_exact (n : Nat) : (exact n).value = valueOfUnits n := by
  simp only [exact, value, valueOfUnits, unitsPerOne, zpow_neg, zpow_natCast]
  push_cast
  rw [show (10 : ℚ) = 2 * 5 by norm_num, mul_pow]
  field_simp

theorem keepsPowers_exact (n : Nat) : KeepsPowers n (exact n) := by
  intro k
  rw [value_exact]
  exact ⟨id, le_of_lt⟩

theorem keepsPowers_search {n : Nat} (hn : 0 < n) (x : Double) (precisions : List Nat)
    (hp : ∀ p ∈ precisions, 1 ≤ p) : KeepsPowers n (search x n precisions) := by
  induction precisions with
  | nil => exact keepsPowers_exact n
  | cons precision rest ih =>
    unfold search
    split
    · rename_i d hd
      exact keepsPowers_candidates hn (hp precision (by simp)) d (List.mem_of_find?_eq_some hd)
    · exact ih fun p h => hp p (by simp [h])

theorem keepsPowers_shortest {n : Nat} (hn : 0 < n) (x : Double) :
    KeepsPowers n (shortest x n) := by
  rw [shortest, if_neg (Nat.pos_iff_ne_zero.mp hn)]
  refine keepsPowers_search hn x _ fun p h => ?_
  rw [List.mem_range'_1] at h
  exact h.1

theorem digits_pos_of_keepsPowers {n : Nat} {d : Decimal} (hn : 0 < n) (h : KeepsPowers n d) :
    0 < d.digits := by
  have hle := (h _).1 (zpow_magnitude_le hn unitsPerOne_pos)
  rcases Nat.eq_zero_or_pos d.digits with h0 | hpos
  · rw [value, h0, Nat.cast_zero, zero_mul] at hle
    exact absurd (ten_zpow_pos _) (not_lt.mpr hle)
  · exact hpos

/-! ## The place of the first digit -/

theorem normalize_place (d : Decimal) :
    d.normalize.2 = ((natDigits d.digits).length : ℤ) + d.exponent := rfl

/-- The place counts how many powers of ten, from below, the value reaches. -/
theorem place_le_iff {d : Decimal} (hd : 0 < d.digits) (k : ℤ) :
    d.normalize.2 ≤ k ↔ d.value < (10 : ℚ) ^ k := by
  have hpos := ten_zpow_pos d.exponent
  have hlen := natDigits_length_pos d.digits
  have hup : d.value < (10 : ℚ) ^ d.normalize.2 := by
    rw [normalize_place, zpow_add₀ (by norm_num), zpow_natCast, value]
    refine mul_lt_mul_of_pos_right ?_ hpos
    exact_mod_cast lt_pow_natDigits d.digits
  have hlow : (10 : ℚ) ^ (d.normalize.2 - 1) ≤ d.value := by
    have hcast : d.normalize.2 - 1 =
        (((natDigits d.digits).length - 1 : Nat) : ℤ) + d.exponent := by
      rw [normalize_place]
      omega
    rw [hcast, zpow_add₀ (by norm_num), zpow_natCast, value]
    refine mul_le_mul_of_nonneg_right ?_ hpos.le
    exact_mod_cast pow_natDigits_le hd
  constructor
  · intro hk
    exact hup.trans_le (zpow_le_zpow_right₀ (by norm_num) hk)
  · intro hk
    by_contra hlt
    have hmono : (10 : ℚ) ^ k ≤ 10 ^ (d.normalize.2 - 1) :=
      zpow_le_zpow_right₀ (by norm_num) (by omega)
    exact absurd (hk.trans_le (hmono.trans hlow)) (lt_irrefl _)

/-! ## Doubles that are not integral -/

theorem tenPow16_holds : Format.double.Holds (10 ^ 16 * unitsPerOne) := by decide +kernel

/-- The double nearest to one ten-thousandth is not below it. -/
theorem le_snap_tenThousandth :
    unitsPerOne ≤ Format.double.snap unitsPerOne 10000 * 10000 := by decide +kernel

theorem snap_tenThousandth_lt :
    Format.double.snap unitsPerOne 10000 < 2 ^ Format.double.limit := by decide +kernel

section NotIntegral

variable {s : Bool} {n : Nat} (h : Format.double.Holds n) (hn : n % unitsPerOne ≠ 0)

include hn in
theorem units_pos : 0 < n :=
  Nat.pos_of_ne_zero fun h0 => hn (by rw [h0, Nat.zero_mod])

include hn in
theorem digits_shortest_pos : 0 < (shortest (.finite s n h) n).digits :=
  digits_pos_of_keepsPowers (units_pos hn) (keepsPowers_shortest (units_pos hn) _)

include hn in
theorem place_le_sixteen : (shortest (.finite s n h) n).normalize.2 ≤ 16 := by
  rw [place_le_iff (digits_shortest_pos h hn)]
  have hlt : valueOfUnits n < (10 : ℚ) ^ (16 : ℤ) := by
    have hq : (n : ℚ) < 2 ^ 53 * unitsPerOne := by exact_mod_cast Double.lt_of_not_integral h hn
    rw [valueOfUnits, div_lt_iff₀ unitsPerOne_cast_pos]
    refine hq.trans_le (mul_le_mul_of_nonneg_right (by norm_num) unitsPerOne_cast_pos.le)
  refine lt_of_le_of_ne ((keepsPowers_shortest (units_pos hn) _ 16).2 hlt) fun heq => hn ?_
  -- A decimal of that value reads back as an integral double.
  have hvalue : (10 : ℚ) ^ (16 : ℤ) = value ⟨10 ^ 16, 0⟩ := by norm_num [value]
  have hread := toDouble_shortest (s := s) h
  rw [toDouble_congr (heq.trans hvalue)] at hread
  have hten : toDouble s ⟨10 ^ 16, 0⟩ = .finite s (10 ^ 16 * unitsPerOne) tenPow16_holds := by
    have hone := Double.ofRatio_of_holds (s := s) tenPow16_holds Nat.one_pos
    rwa [Nat.mul_one] at hone
  rw [hten] at hread
  cases hread
  exact Nat.mul_mod_left _ _

include hn in
/-- Numbers that are not integral are written with an exponent only below one ten-thousandth. -/
theorem neg_four_lt_place_iff :
    -4 < (shortest (.finite s n h) n).normalize.2 ↔ unitsPerOne ≤ n * 10000 := by
  have hkeeps := keepsPowers_shortest (units_pos hn) (.finite s n h) (-4)
  have hiff : unitsPerOne ≤ n * 10000 ↔ (10 : ℚ) ^ (-4 : ℤ) ≤ valueOfUnits n := by
    have hq : unitsPerOne ≤ n * 10000 ↔ (unitsPerOne : ℚ) ≤ n * 10000 := by
      exact_mod_cast Iff.rfl
    rw [hq, valueOfUnits, le_div_iff₀ unitsPerOne_cast_pos]
    norm_num
    constructor <;> intro h <;> linarith
  rw [← not_le, place_le_iff (digits_shortest_pos h hn), not_lt, hiff]
  refine ⟨fun hle => ?_, hkeeps.1⟩
  by_contra hlt
  -- Otherwise the decimal is one ten-thousandth itself, which reads back as more.
  have heq := le_antisymm (hkeeps.2 (not_le.mp hlt)) hle
  have hread := toDouble_shortest (s := s) h
  rw [toDouble_congr (heq.trans (by simp [value] : (10 : ℚ) ^ (-4 : ℤ) = value ⟨1, -4⟩))] at hread
  have hround : Format.double.round unitsPerOne 10000 =
      some (Format.double.snap unitsPerOne 10000) := if_pos snap_tenThousandth_lt
  have hfour : toDouble s ⟨1, -4⟩ = Double.ofRatio s unitsPerOne 10000 := by
    have h1 := toDouble_neg s 1 4
    rw [Nat.one_mul] at h1
    exact h1
  rw [hfour, Double.ofRatio_of_round hround] at hread
  cases hread
  exact hlt (hiff.mp le_snap_tenThousandth)

end NotIntegral

end Decimal
end Formula
