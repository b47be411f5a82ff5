import Mathlib
import Formula.Double.Basic

/-!
# Formula.Proofs.Double.Order

The order of doubles is the order of their values, among the integers of units with an infinity at
either end (`Double.order?_compares`).
-/

-- Powers are taken with the instance of the core library, whatever other instances are known.
attribute [local instance (10000)] instPowNat

namespace Formula
namespace Double

/-- The value of a double in units, which may be infinite; NaN has none. -/
def extended? : Double → Option (WithBot (WithTop Int))
  | .nan => none
  | .infinite negative => some (if negative then ⊥ else ⊤)
  | .finite s n _ => some ((signed s n : WithTop Int) : WithBot (WithTop Int))

variable {x y : Double} {p q : WithBot (WithTop Int)} {a b : Int}

theorem exists_extended? (h : x.isNaN = false) : ∃ p, x.extended? = some p := by
  cases x with
  | nan => cases h
  | infinite s => exact ⟨_, rfl⟩
  | finite s n hn => exact ⟨_, rfl⟩

/-- A rank and the value that it stands for. -/
inductive Stands : Int → WithBot (WithTop Int) → Prop where
  | bot : Stands (-2 ^ Format.double.limit) ⊥
  | top : Stands (2 ^ Format.double.limit) ((⊤ : WithTop Int) : WithBot (WithTop Int))
  | finite {n : Int} : -2 ^ Format.double.limit < n → n < 2 ^ Format.double.limit →
      Stands n ((n : WithTop Int) : WithBot (WithTop Int))

theorem exists_stands (h : x.extended? = some p) : ∃ a, x.rank? = some a ∧ Stands a p := by
  cases x with
  | nan => cases h
  | infinite s =>
    cases s with
    | false =>
      cases h
      exact ⟨_, rfl, .top⟩
    | true =>
      cases h
      exact ⟨_, rfl, .bot⟩
  | finite s n hn =>
    cases h
    have hlt : (n : Int) < 2 ^ Format.double.limit := by
      have hcast := Int.ofNat_lt.mpr hn.2
      rwa [Int.natCast_pow] at hcast
    exact ⟨_, rfl, .finite (by cases s <;> simp only [signed] <;> omega)
      (by cases s <;> simp only [signed] <;> omega)⟩

/-- The infinities stand beyond all finite values. -/
theorem Stands.lt_iff (ha : Stands a p) (hb : Stands b q) : a < b ↔ p < q := by
  have hpos : (0 : Int) < 2 ^ Format.double.limit := Int.pow_pos (by decide)
  cases ha <;> cases hb <;>
    simp only [WithBot.coe_lt_coe, WithTop.coe_lt_coe, WithTop.coe_lt_top, WithBot.bot_lt_coe,
      lt_irrefl, not_top_lt, not_lt_bot, iff_true, iff_false] <;>
    omega

/-- Numbers are ordered as their values are. -/
theorem order?_compares (hp : x.extended? = some p) (hq : y.extended? = some q) :
    ∃ o, x.order? y = some o ∧ o.Compares p q := by
  obtain ⟨a, ha, hap⟩ := exists_stands hp
  obtain ⟨b, hb, hbq⟩ := exists_stands hq
  refine ⟨compare a b, by rw [order?, ha, hb], ?_⟩
  rcases lt_trichotomy a b with hlt | heq | hgt
  · rw [compare_lt_iff_lt.mpr hlt]
    exact (hap.lt_iff hbq).mp hlt
  · rw [compare_eq_iff_eq.mpr heq]
    exact le_antisymm (not_lt.mp fun h => absurd ((hbq.lt_iff hap).mpr h) (by omega))
      (not_lt.mp fun h => absurd ((hap.lt_iff hbq).mpr h) (by omega))
  · rw [compare_gt_iff_gt.mpr hgt]
    exact (hbq.lt_iff hap).mp hgt

/-- There is no order with NaN. -/
theorem order?_eq_none (h : x.isNaN = true ∨ y.isNaN = true) : x.order? y = none := by
  cases x <;> cases y <;> simp [isNaN, order?, rank?] at h ⊢

end Double
end Formula
