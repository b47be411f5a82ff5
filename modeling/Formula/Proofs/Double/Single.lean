import Formula.Coerce

/-!
# Formula.Proofs.Double.Single

The doubles of single precision (`Double.IsSingle`): NaN, the infinities, and the integers of at most
24 binary digits times a power of two, the exponents going from -149 to 104. Rounding to single
precision always gives one of these, and leaves them alone.
-/

-- Powers are taken with the instance of the core library, whatever other instances are known.
attribute [local instance (10000)] instPowNat

namespace Formula

/-- The magnitudes of a format are the numbers of `precision` digits, followed by at least `lowest`
zeros and by no more than the limit leaves room for. -/
theorem Format.holds_iff {f : Format} (hp : 0 < f.precision)
    (hroom : f.lowest + f.precision ≤ f.limit) {n : Nat} :
    f.Holds n ↔ ∃ digits zeros, digits < 2 ^ f.precision ∧ f.lowest ≤ zeros ∧
      zeros + f.precision ≤ f.limit ∧ n = digits * 2 ^ zeros := by
  constructor
  · rintro ⟨⟨k, hk⟩, hlt⟩
    have hlog : n.log2 < f.limit := log2_lt_of_lt (by omega) hlt
    have hdigits : n / 2 ^ f.grain n = k := by
      conv => lhs; lhs; rw [hk]
      exact Nat.mul_div_cancel_left k (Nat.two_pow_pos _)
    refine ⟨k, f.grain n, hdigits ▸ f.div_grain_lt n, Nat.le_max_right _ _, ?_, ?_⟩
    · unfold grain
      omega
    · rw [Nat.mul_comm]
      exact hk
  · rintro ⟨digits, zeros, hdigits, hlowest, hlimit, rfl⟩
    refine ⟨grain_dvd_of_le hp hlowest (Nat.le_of_lt hdigits), ?_⟩
    calc digits * 2 ^ zeros
      _ < 2 ^ f.precision * 2 ^ zeros := Nat.mul_lt_mul_of_pos_right hdigits (Nat.two_pow_pos _)
      _ = 2 ^ (f.precision + zeros) := (Nat.pow_add ..).symm
      _ ≤ 2 ^ f.limit := Nat.pow_le_pow_right (by decide) (by omega)

namespace Double

/-- A double that single precision has too. A finite one is `digits * 2 ^ (exponent - 149)`, without
regard to the sign. -/
inductive IsSingle : Double → Prop where
  | nan : IsSingle .nan
  | infinite (s : Bool) : IsSingle (.infinite s)
  | finite {s : Bool} {n digits exponent : Nat} {h : Format.double.Holds n} :
      digits < 2 ^ (24 : Nat) → exponent ≤ 253 →
      n * 2 ^ (149 : Nat) = digits * 2 ^ exponent * unitsPerOne → IsSingle (.finite s n h)

theorem isSingle_finite_iff {s : Bool} {n : Nat} {h : Format.double.Holds n} :
    (finite s n h).IsSingle ↔ Format.single.Holds n := by
  have hunits (exponent : Nat) :
      2 ^ exponent * unitsPerOne = 2 ^ (925 + exponent) * 2 ^ (149 : Nat) := by
    have hone : exponent + unitExponent = 925 + exponent + 149 := by
      unfold unitExponent
      omega
    rw [unitsPerOne, ← Nat.pow_add, hone, Nat.pow_add]
  have hroom : Format.single.lowest + Format.single.precision ≤ Format.single.limit := by
    rw [Format.single_lowest, Format.single_precision, Format.single_limit]
    decide
  rw [Format.holds_iff Format.single_precision_pos hroom, Format.single_lowest,
    Format.single_precision, Format.single_limit]
  constructor
  · rintro (_ | _ | ⟨hdigits, hexponent, hn⟩)
    rw [Nat.mul_assoc, hunits, ← Nat.mul_assoc] at hn
    exact ⟨_, _, hdigits, Nat.le_add_right .., by omega,
      Nat.eq_of_mul_eq_mul_right (Nat.two_pow_pos _) hn⟩
  · rintro ⟨digits, zeros, hdigits, hlowest, hlimit, hn⟩
    have hexponent : zeros - 925 ≤ 253 := by omega
    refine .finite hdigits hexponent ?_
    rw [Nat.mul_assoc, hunits, ← Nat.mul_assoc, Nat.add_sub_cancel' hlowest, hn]

section toSingle

variable {s : Bool} {n : Nat} {hn : Format.double.Holds n}

theorem toSingle_of_round {m : Nat} (h : Format.single.round n 1 = some m) :
    (finite s n hn).toSingle = .finite s m
      (single_holds_double (Format.round_holds Format.single_precision_pos h)) := by
  rw [toSingle]
  split
  · rename_i k hk
    cases Option.some.inj (hk.symm.trans h)
    rfl
  · rename_i hk
    cases hk.symm.trans h

theorem toSingle_of_overflow (h : Format.single.round n 1 = none) :
    (finite s n hn).toSingle = .infinite s := by
  rw [toSingle]
  split
  · rename_i k hk
    cases hk.symm.trans h
  · rfl

end toSingle

theorem toSingle_isSingle (x : Double) : x.toSingle.IsSingle := by
  cases x with
  | nan => exact .nan
  | infinite s => exact .infinite s
  | finite s n hn =>
    cases h : Format.single.round n 1 with
    | some m =>
      rw [toSingle_of_round h]
      exact isSingle_finite_iff.mpr (Format.round_holds Format.single_precision_pos h)
    | none =>
      rw [toSingle_of_overflow h]
      exact .infinite s

theorem toSingle_of_isSingle {x : Double} (h : x.IsSingle) : x.toSingle = x := by
  cases x with
  | nan | infinite s => rfl
  | finite s n hn =>
    have hround := Format.round_of_holds (isSingle_finite_iff.mp h) Nat.one_pos
    rw [Nat.mul_one] at hround
    exact toSingle_of_round hround

end Double

/-- The way through the format changes nothing, since what overflows in it is infinite after all. -/
theorem roundToSingle_eq (x : Double) : roundToSingle x = .ok x.toSingle := by
  rw [roundToSingle, Double.packSingle]
  cases x with
  | nan | infinite s => rfl
  | finite s n hn =>
    cases h : Format.single.round n 1 with
    | some m =>
      rw [Double.toSingle_of_round h]
      rfl
    | none =>
      rw [Double.toSingle_of_overflow h]
      rfl

end Formula
