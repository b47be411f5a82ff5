import Formula.Double.Basic

/-!
# Formula.Decimal.Basic

Decimal notation of naturals and integers, and the double that a decimal number denotes.
-/

-- Powers are taken with the instance of the core library, whatever other instances are known.
attribute [local instance (10000)] instPowNat

namespace Formula

/-- The number `digits · 10 ^ exponent`. -/
structure Decimal where
  digits : Nat
  exponent : Int
deriving DecidableEq, Repr

namespace Decimal

def digitChar (d : Nat) : Char :=
  Char.ofNat ('0'.toNat + d)

/-- The decimal notation of a natural number, without leading zeros. -/
def natDigits (n : Nat) : List Char :=
  if n < 10 then [digitChar n]
  else natDigits (n / 10) ++ [digitChar (n % 10)]
termination_by n

def intDigits (n : Int) : List Char :=
  if n < 0 then '-' :: natDigits n.natAbs else natDigits n.natAbs

def natText (n : Nat) : String := String.ofList (natDigits n)

def intText (n : Int) : String := String.ofList (intDigits n)

/-- The double nearest to a decimal number with the given sign. -/
def toDouble (negative : Bool) (d : Decimal) : Double :=
  match d.exponent with
  | .ofNat e => Double.ofRatio negative (d.digits * 10 ^ e * unitsPerOne) 1
  | .negSucc e => Double.ofRatio negative (d.digits * unitsPerOne) (10 ^ (e + 1))

theorem toDouble_neg (s : Bool) (n e : Nat) :
    toDouble s ⟨n, -(e : Int)⟩ = Double.ofRatio s (n * unitsPerOne) (10 ^ e) := by
  cases e with
  | zero =>
    rw [show -((0 : Nat) : Int) = Int.ofNat 0 from rfl]
    simp only [toDouble, Nat.pow_zero, Nat.mul_one]
  | succ e =>
    rw [show -((e + 1 : Nat) : Int) = Int.negSucc e from rfl]
    simp only [toDouble]

theorem toDouble_zero (s : Bool) : toDouble s ⟨0, 0⟩ = .finite s 0 (Double.zero_holds _) := by
  have h : (0 : Nat) * 10 ^ (0 : Nat) * unitsPerOne = 0 * 1 := by rw [Nat.zero_mul, Nat.zero_mul]
  show Double.ofRatio s (0 * 10 ^ (0 : Nat) * unitsPerOne) 1 = _
  rw [h]
  exact Double.ofRatio_of_holds (Double.zero_holds _) Nat.one_pos

end Decimal
end Formula
