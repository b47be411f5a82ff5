import Mathlib.Data.Rat.Floor
import Mathlib.Data.Sign.Basic
import Mathlib.Tactic.FieldSimp
import Formula.Proofs.Errors.Library

/-!
# Formula.Proofs.Library.Rounding

`floor`, `ceil` and `round` of the library on every double: the result is the integer that the exact
value is to be rounded to, which is a double at all magnitudes (`rounding_exact`). What is no number
or infinite is left alone.
-/

-- Powers are taken with the instance of the core library, whatever other instances are known.
attribute [local instance (10000)] instPowNat

namespace Formula

/-- The exact value of a finite double. -/
def Double.value? (x : Double) : Option ℚ :=
  x.units?.map fun u => (u : ℚ) / (unitsPerOne : ℕ)

/-- The functions of the library that give an integer. -/
inductive Rounding where
  | floor
  | ceil
  | round

namespace Rounding

def name : Rounding → String
  | floor => "floor"
  | ceil => "ceil"
  | round => "round"

/-- The integer for an exact value: the greatest one not above it, the least one not below it, or
the nearest one, with a half going away from zero. -/
def target : Rounding → ℚ → ℤ
  | floor, q => ⌊q⌋
  | ceil, q => ⌈q⌉
  | round, q => SignType.sign q * ⌊|q| + 1 / 2⌋

/-- What the library does with a finite double. -/
def rule : Rounding → Double → Except Error Double
  | floor => Double.throughInt Double.floorToInt
  | ceil => Double.throughInt Double.ceilToInt
  | round => Library.roundHalfAway

theorem rule_round (x : Double) : round.rule x = Library.roundHalfAway x := rfl

theorem call_of_rounding {r : Rounding} {x y : Double} (h : Library.rounding r.rule x = .ok y) :
    Library.call r.name [.double x] = .ok (.double y) := by
  have hget : Library.functions.get? r.name = some (.unary (Library.rounding r.rule)) := by
    cases r <;> rfl
  have happly : Library.apply (.unary (Library.rounding r.rule)) [.double x] = .ok y := h
  rw [Library.call, hget]
  simp only [happly]

theorem call_of_finite {r : Rounding} {x y : Double} (hx : x.isFinite = true)
    (h : r.rule x = .ok y) : Library.call r.name [.double x] = .ok (.double y) := by
  refine call_of_rounding ?_
  rw [Library.rounding, if_pos hx, h]

theorem call_of_not_finite {r : Rounding} {x : Double} (hx : x.isFinite = false) :
    Library.call r.name [.double x] = .ok (.double x) := by
  refine call_of_rounding ?_
  rw [Library.rounding, if_neg (by simp [hx])]

end Rounding

namespace Double

variable {s : Bool} {k m n : Nat}

theorem value?_finite {h : Format.double.Holds n} :
    (finite s n h).value? = some (((signed s n : ℤ) : ℚ) / (unitsPerOne : ℕ)) :=
  rfl

theorem unitsPerOne_rat_pos : (0 : ℚ) < (unitsPerOne : ℕ) :=
  Nat.cast_pos.mpr unitsPerOne_pos

/-- A double that is a multiple of one has that multiple for its value. -/
theorem value?_integer {h : Format.double.Holds (m * unitsPerOne)} :
    (finite s (m * unitsPerOne) h).value? = some ((signed s m : ℤ) : ℚ) := by
  rw [value?_finite, signed_mul, Int.cast_mul, Int.cast_natCast,
    mul_div_cancel_right₀ _ (ne_of_gt unitsPerOne_rat_pos)]

/-! ## To the nearest -/

theorem floor_add_half (n : Nat) :
    ⌊(n : ℚ) / (unitsPerOne : ℕ) + 1 / 2⌋ = (nearestWhole n : ℤ) := by
  have hpos := unitsPerOne_rat_pos
  obtain ⟨hlow, hhigh⟩ := nearestWhole_bounds n
  have hlow' : 2 * ((nearestWhole n : ℚ) * (unitsPerOne : ℕ)) ≤ 2 * n + (unitsPerOne : ℕ) := by
    exact_mod_cast hlow
  have hhigh' : 2 * (n : ℚ) + (unitsPerOne : ℕ) <
      2 * ((nearestWhole n : ℚ) * (unitsPerOne : ℕ)) + 2 * (unitsPerOne : ℕ) := by
    exact_mod_cast hhigh
  have hsum : (n : ℚ) / (unitsPerOne : ℕ) + 1 / 2 =
      (2 * n + (unitsPerOne : ℕ)) / (2 * (unitsPerOne : ℕ)) := by
    field_simp
  rw [Int.floor_eq_iff, hsum, Int.cast_natCast, le_div_iff₀ (by linarith), div_lt_iff₀ (by linarith)]
  constructor <;> linarith

theorem target_round (s : Bool) (n : Nat) :
    Rounding.round.target (((signed s n : ℤ) : ℚ) / (unitsPerOne : ℕ)) =
      signed s (nearestWhole n) := by
  have hpos := unitsPerOne_rat_pos
  have habs : |((signed s n : ℤ) : ℚ) / (unitsPerOne : ℕ)| = (n : ℚ) / (unitsPerOne : ℕ) := by
    rw [abs_div, abs_of_pos hpos, ← Int.cast_abs, Int.abs_eq_natAbs, natAbs_signed, Int.cast_natCast]
  rw [Rounding.target, habs, floor_add_half]
  rcases Nat.eq_zero_or_pos n with rfl | hn
  · have hzero : nearestWhole 0 = 0 := by simpa using nearestWhole_mul 0
    rw [hzero]
    cases s <;> simp [signed]
  · have hunits : (0 : ℚ) < (n : ℚ) / (unitsPerOne : ℕ) := div_pos (Nat.cast_pos.mpr hn) hpos
    cases s with
    | false =>
      have hsign : SignType.sign (((signed false n : ℤ) : ℚ) / (unitsPerOne : ℕ)) = 1 :=
        sign_pos hunits
      rw [hsign, SignType.coe_one, one_mul]
      rfl
    | true =>
      have hneg : ((signed true n : ℤ) : ℚ) / (unitsPerOne : ℕ) = -((n : ℚ) / (unitsPerOne : ℕ)) := by
        rw [signed, if_pos rfl, Int.cast_neg, Int.cast_natCast, neg_div]
      have hsign : SignType.sign (((signed true n : ℤ) : ℚ) / (unitsPerOne : ℕ)) = -1 := by
        rw [hneg]
        exact sign_neg (neg_neg_of_pos hunits)
      rw [hsign, SignType.coe_neg_one, neg_one_mul]
      rfl

end Double

/-! ## The three functions -/

namespace Rounding

variable {n : Nat}

theorem exists_through {round : Int → Int} (hround : Double.Rounds round)
    (hexact : ∀ k, round (k * unitsPerOne) = k) (s : Bool) (h : Format.double.Holds n) :
    ∃ t m hm, Double.throughInt (Double.toIntBy round) (.finite s n h) =
        .ok (.finite t (m * unitsPerOne) hm) ∧
      Double.signed t m = round (Double.signed s n) ∧
      Double.throughInt (Double.toIntBy round) (.finite t (m * unitsPerOne) hm) =
        .ok (.finite t (m * unitsPerOne) hm) := by
  obtain ⟨hk, hy⟩ := Double.throughInt_finite hround s h
  exact ⟨_, _, hk, hy, Double.signed_natAbs _, Double.throughInt_integer hexact hk⟩

/-- On a finite double: the integer that it should be, which is rounded to itself. -/
theorem exists_rounded (r : Rounding) (s : Bool) (h : Format.double.Holds n) :
    ∃ t m hm, r.rule (.finite s n h) = .ok (.finite t (m * unitsPerOne) hm) ∧
      Double.signed t m = r.target (((Double.signed s n : ℤ) : ℚ) / (unitsPerOne : ℕ)) ∧
      r.rule (.finite t (m * unitsPerOne) hm) = .ok (.finite t (m * unitsPerOne) hm) := by
  cases r with
  | floor =>
    obtain ⟨t, m, hm, hy, hvalue, hagain⟩ := exists_through Double.rounds_floor
      (fun k => Int.mul_ediv_cancel k Double.unitsPerOne_ne_zero) s h
    refine ⟨t, m, hm, hy, ?_, hagain⟩
    rw [hvalue, target, Rat.floor_intCast_div_natCast]
  | ceil =>
    obtain ⟨t, m, hm, hy, hvalue, hagain⟩ := exists_through Double.rounds_ceil
      (fun k => by rw [← Int.neg_mul, Int.mul_ediv_cancel _ Double.unitsPerOne_ne_zero, Int.neg_neg])
      s h
    refine ⟨t, m, hm, hy, ?_, hagain⟩
    rw [hvalue, target, Rat.ceil_intCast_div_natCast]
  | round =>
    have hagain := Library.roundHalfAway_finite s (Double.nearestWhole_holds h)
    simp only [Double.nearestWhole_mul] at hagain
    exact ⟨s, _, _, Library.roundHalfAway_finite s h, (Double.target_round s n).symm, hagain⟩

end Rounding

/-- `floor`, `ceil` and `round` give for a finite double the double whose value is exactly the
greatest integer not above it, the least one not below it, or the nearest one with a half going away
from zero, and leave any other double alone. What they give they give back unchanged. The nearest
integer has the sign of the argument, also if it is zero, so that `round` is odd. -/
theorem rounding_exact (r : Rounding) (x : Double) :
    ∃ y, Library.call r.name [.double x] = .ok (.double y) ∧
      (∀ q, x.value? = some q → y.value? = some (r.target q : ℚ)) ∧
      (x.isFinite = false → y = x) ∧
      Library.call r.name [.double y] = .ok (.double y) ∧
      (r = .round → y.isNegative = x.isNegative ∧
        Library.call r.name [.double x.neg] = .ok (.double y.neg)) := by
  cases x with
  | nan | infinite s =>
    exact ⟨_, Rounding.call_of_not_finite rfl, nofun, fun _ => rfl,
      Rounding.call_of_not_finite rfl, fun _ => ⟨rfl, Rounding.call_of_not_finite rfl⟩⟩
  | finite s n h =>
    obtain ⟨t, m, hm, hy, htarget, hagain⟩ := r.exists_rounded s h
    refine ⟨_, Rounding.call_of_finite rfl hy, ?_, nofun, Rounding.call_of_finite rfl hagain, ?_⟩
    · rintro q hq
      cases hq
      rw [Double.value?_integer, htarget]
    · rintro rfl
      rw [Rounding.rule_round, Library.roundHalfAway_finite] at hy
      rw [← Except.ok.inj hy]
      refine ⟨rfl, Rounding.call_of_finite rfl ?_⟩
      rw [Rounding.rule_round, Double.neg, Library.roundHalfAway_finite]
      rfl

end Formula
