import Formula.Operation
import Formula.Proofs.Conversion.Integers
import Formula.Proofs.Double.Single
import Formula.Proofs.Errors.Surroundings

/-!
# Formula.Proofs.Errors.Operation

What the operators, and the conversion of a result to a type, fail with. On tame values these are
ordinary errors, with four exceptions: a remainder of an infinite dividend (`NoRemainder`), the
error of a sequence itself (`Sequence.Fails`), the name of a type that there is not
(`Target.Unknown`), and the error of the test of a class (`Target.Refuses`).
-/

namespace Formula

variable {raised : Error → Prop} {left right : Value}

/-! ## Operators -/

/-- A quotient is refused for a divisor of zero only. -/
theorem divideDoubles_cases (x y : Double) :
    (y.isZero = true ∧ divideDoubles x y = .error (.invalidOperation .divisionByZero)) ∨
      ∃ z, divideDoubles x y = .ok z := by
  rw [divideDoubles]
  by_cases hzero : y.isZero = true
  · rw [if_pos hzero]
    exact .inl ⟨hzero, rfl⟩
  · rw [if_neg hzero, Double.divide, if_neg hzero]
    exact .inr ⟨_, rfl⟩

/-- The left value is an infinite number and the right one a number, neither zero nor NaN. -/
def NoRemainder (left right : Value) : Prop :=
  ∃ s y, left.toDouble = .ok (.infinite s) ∧ right.toDouble = .ok y ∧
    y.isZero = false ∧ y.isNaN = false

theorem remainderOfDoubles_infinite (s : Bool) {y : Double} (hzero : y.isZero = false)
    (hnan : y.isNaN = false) : remainderOfDoubles (.infinite s) y = .error .domain := by
  rw [remainderOfDoubles, hzero]
  cases y with
  | nan => simp [Double.isNaN] at hnan
  | infinite | finite => rfl

/-- Every other dividend has a remainder, and so has an infinite one by NaN. -/
theorem modulo_total {x y : Double} (hzero : y.isZero = false)
    (h : y.isNaN = true ∨ ∀ s, x ≠ .infinite s) : ∃ z, x.modulo y = .ok z := by
  cases x with
  | nan => exact ⟨.nan, rfl⟩
  | infinite s =>
    cases y with
    | nan => exact ⟨.nan, rfl⟩
    | infinite | finite => simp [Double.isNaN] at h
  | finite s n holds =>
    cases y with
    | nan => exact ⟨.nan, rfl⟩
    | infinite | finite => exact ⟨_, if_neg (by simp [hzero])⟩

/-- A remainder is refused for a divisor of zero, and for an infinite dividend unless the divisor
is NaN. -/
theorem remainderOfDoubles_cases (x y : Double) :
    (y.isZero = true ∧ remainderOfDoubles x y = .error (.invalidOperation .moduloByZero)) ∨
      (y.isZero = false ∧ y.isNaN = false ∧ (∃ s, x = .infinite s) ∧
        remainderOfDoubles x y = .error .domain) ∨
      ∃ z, remainderOfDoubles x y = .ok z := by
  by_cases hzero : y.isZero = true
  · rw [remainderOfDoubles, if_pos hzero]
    exact .inl ⟨hzero, rfl⟩
  · by_cases hinfinite : y.isNaN = false ∧ ∃ s, x = .infinite s
    · obtain ⟨hnan, s, rfl⟩ := hinfinite
      rw [Bool.not_eq_true] at hzero
      exact .inr (.inl ⟨hzero, hnan, ⟨s, rfl⟩, remainderOfDoubles_infinite s hzero hnan⟩)
    · have hother : y.isNaN = true ∨ ∀ s, x ≠ .infinite s := by
        by_cases hnan : y.isNaN = true
        · exact .inl hnan
        · exact .inr fun s hs => hinfinite ⟨by simpa using hnan, s, hs⟩
      obtain ⟨z, hz⟩ := modulo_total (by simpa using hzero) hother
      rw [remainderOfDoubles, if_neg hzero, hz]
      exact .inr (.inr ⟨z, rfl⟩)

/-- The errors of a sequence of its own at an index: its length fails, or the item that there is by
its length. -/
def Sequence.Fails (items : Sequence Value) (n : Nat) (err : Error) : Prop :=
  items.length = .error err ∨
    ∃ length, items.length = .ok length ∧ n < length ∧ items.item n = .error err

/-- The class that is asked for stands for no type, and its test does not say whether it admits the
value but fails. -/
def Target.Refuses (target : Target) (v : Value) (err : Error) : Prop :=
  ∃ test, target = .ofClass test ∧ typeOfClass? test = none ∧ test.admits v = .error err

end Formula
