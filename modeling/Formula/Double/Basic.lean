import Formula.Double.Format

/-!
# Formula.Double.Basic

Double-precision numbers. A finite one is a sign and a magnitude in units that the format holds,
so two of them are the same bit pattern exactly when they are equal as terms; there is a single
NaN. Comparison goes through `rank?`, an integer for every number but NaN.
-/

-- Powers are taken with the instance of the core library, whatever other instances are known.
attribute [local instance (10000)] instPowNat

namespace Formula

inductive Double where
  | nan
  | infinite (negative : Bool)
  | finite (negative : Bool) (units : Nat) (holds : Format.double.Holds units)
deriving DecidableEq

namespace Double

/-- The double nearest to `num / den` units, with the given sign. -/
def ofRatio (negative : Bool) (num den : Nat) : Double :=
  match h : Format.double.round num den with
  | some n => .finite negative n (Format.round_holds Format.double_precision_pos h)
  | none => .infinite negative

theorem ofRatio_of_round {s : Bool} {num den n : Nat} (h : Format.double.round num den = some n) :
    ofRatio s num den = .finite s n (Format.round_holds Format.double_precision_pos h) := by
  unfold ofRatio
  split
  · rename_i m hm
    cases Option.some.inj (hm.symm.trans h)
    rfl
  · rename_i hm
    rw [h] at hm
    cases hm

/-- A ratio that equals a magnitude of the format gives it. -/
theorem ofRatio_of_holds {s : Bool} {n den : Nat} (hn : Format.double.Holds n) (h : 0 < den) :
    ofRatio s (n * den) den = .finite s n hn :=
  ofRatio_of_round (Format.round_of_holds hn h)

theorem zero_holds (f : Format) : f.Holds 0 :=
  ⟨Nat.dvd_zero _, Nat.two_pow_pos _⟩

def zero : Double := .finite false 0 (zero_holds _)

instance : Inhabited Double := ⟨zero⟩

/-- One half. -/
def half : Double := ofRatio false unitsPerOne 2

/-- The double nearest to an integer, infinite beyond the range. -/
def ofInt (n : Int) : Double :=
  ofRatio (n < 0) (n.natAbs * unitsPerOne) 1

def isNaN : Double → Bool
  | .nan => true
  | _ => false

def isFinite : Double → Bool
  | .finite _ _ _ => true
  | _ => false

def isInfinite : Double → Bool
  | .infinite _ => true
  | _ => false

/-- The sign bit; NaN has none. -/
def isNegative : Double → Bool
  | .nan => false
  | .infinite s => s
  | .finite s _ _ => s

/-- A magnitude with its sign. -/
def signed (negative : Bool) (n : Nat) : Int :=
  if negative then -(n : Int) else n

/-- The exact value of a finite double, in units. -/
def units? : Double → Option Int
  | .finite s n _ => some (signed s n)
  | _ => none

def isIntegral : Double → Bool
  | .finite _ n _ => n % unitsPerOne = 0
  | _ => false

/-- The integer that a double equals, if it is finite and integral. -/
def toInt? : Double → Option Int
  | .finite s n _ => if n % unitsPerOne = 0 then some (signed s (n / unitsPerOne)) else none
  | _ => none

/-- A number that orders the doubles: the units of a finite one, and for the infinities the first
power of two past all finite ones. NaN has no rank. -/
def rank? : Double → Option Int
  | .nan => none
  | .infinite s => some (signed s (2 ^ Format.double.limit))
  | .finite s n _ => some (signed s n)

/-- The order of two doubles; there is none with NaN. -/
def order? (x y : Double) : Option Ordering :=
  match x.rank?, y.rank? with
  | some a, some b => some (compare a b)
  | _, _ => none

def lt (x y : Double) : Bool := x.order? y = some .lt

/-- Numeric equality: the two zeros are equal and NaN differs from itself. -/
def eq (x y : Double) : Bool := x.order? y = some .eq

def le (x y : Double) : Bool := x.lt y || x.eq y

def isZero (x : Double) : Bool := x.eq zero

/-- The double of a pattern of 64 bits: sign, eleven bits of exponent, 52 of fraction. -/
def ofBits (bits : Nat) : Double :=
  let negative := bits / 2 ^ (63 : Nat) % 2 = 1
  let exponent := bits / 2 ^ (52 : Nat) % 2 ^ (11 : Nat)
  let fraction := bits % 2 ^ (52 : Nat)
  if exponent = 2047 then
    if fraction = 0 then .infinite negative else .nan
  else if exponent = 0 then ofRatio negative fraction 1
  else ofRatio negative ((2 ^ (52 : Nat) + fraction) * 2 ^ (exponent - 1)) 1

/-- Exponent and fraction bits of a magnitude. -/
def magnitudeBits (n : Nat) : Nat :=
  if n < 2 ^ (52 : Nat) then n
  else (n.log2 - 51) * 2 ^ (52 : Nat) + (n / 2 ^ (n.log2 - 52) - 2 ^ (52 : Nat))

def signBits (negative : Bool) : Nat :=
  if negative then 2 ^ (63 : Nat) else 0

def toBits : Double → Nat
  | .nan => 2047 * 2 ^ (52 : Nat) + 2 ^ (51 : Nat)
  | .infinite s => signBits s + 2047 * 2 ^ (52 : Nat)
  | .finite s n _ => signBits s + magnitudeBits n

end Double
end Formula
