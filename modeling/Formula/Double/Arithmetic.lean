import Formula.Double.Basic

/-!
# Formula.Double.Arithmetic

Arithmetic on doubles. Each operation is exact on units and then rounded once, so it gives the
nearest double; the sign of a zero and the results at the infinities are those of IEEE 754.
-/

namespace Formula
namespace Double

/-- The double nearest to an integer number of units; `zeroSign` is the sign that a zero takes. -/
def ofUnits (zeroSign : Bool) (n : Int) : Double :=
  ofRatio (if n = 0 then zeroSign else n < 0) n.natAbs 1

def neg : Double → Double
  | .nan => .nan
  | .infinite s => .infinite (!s)
  | .finite s n h => .finite (!s) n h

def abs : Double → Double
  | .nan => .nan
  | .infinite _ => .infinite false
  | .finite _ n h => .finite false n h

def add : Double → Double → Double
  | .nan, _ => .nan
  | _, .nan => .nan
  | .infinite s, .infinite t => if s = t then .infinite s else .nan
  | .infinite s, .finite _ _ _ => .infinite s
  | .finite _ _ _, .infinite t => .infinite t
  | .finite s m _, .finite t n _ => ofUnits (s && t) (signed s m + signed t n)

def sub (x y : Double) : Double := x.add y.neg

def mul : Double → Double → Double
  | .nan, _ => .nan
  | _, .nan => .nan
  | .infinite s, .infinite t => .infinite (s != t)
  | .infinite s, .finite t n _ => if n = 0 then .nan else .infinite (s != t)
  | .finite s m _, .infinite t => if m = 0 then .nan else .infinite (s != t)
  | .finite s m _, .finite t n _ => ofRatio (s != t) (m * n) unitsPerOne

def div : Double → Double → Double
  | .nan, _ => .nan
  | _, .nan => .nan
  | .infinite _, .infinite _ => .nan
  | .infinite s, .finite t _ _ => .infinite (s != t)
  | .finite s _ _, .infinite t => .finite (s != t) 0 (zero_holds _)
  | .finite s m _, .finite t n _ =>
    if n = 0 then
      if m = 0 then .nan else .infinite (s != t)
    else ofRatio (s != t) (m * unitsPerOne) n

/-- What is left of `x` after taking away `y` as often as it fits, with the sign of `x`. An
infinite dividend or a zero divisor has no remainder. -/
def remainder : Double → Double → Double
  | .nan, _ => .nan
  | _, .nan => .nan
  | .infinite _, _ => .nan
  | .finite s m h, .infinite _ => .finite s m h
  | .finite s m _, .finite _ n _ => if n = 0 then .nan else ofRatio s (m % n) 1

def copySign (negative : Bool) : Double → Double
  | .nan => .nan
  | .infinite _ => .infinite negative
  | .finite _ n h => .finite negative n h

theorem single_holds_double {n : Nat} (h : Format.single.Holds n) : Format.double.Holds n := by
  refine ⟨Nat.dvd_trans (Nat.pow_dvd_pow 2 ?_) h.1, Nat.lt_of_lt_of_le h.2 ?_⟩
  · simp only [Format.grain, Format.single_precision, Format.single_lowest,
      Format.double_precision, Format.double_lowest]
    omega
  · refine Nat.pow_le_pow_right (by decide) ?_
    rw [Format.single_limit, Format.double_limit]
    decide

/-- The nearest single-precision value, infinite beyond that range. -/
def toSingle : Double → Double
  | .finite s n _ =>
    match h : Format.single.round n 1 with
    | some m => .finite s m (single_holds_double (Format.round_holds Format.single_precision_pos h))
    | none => .infinite s
  | x => x

/-- The first of the greatest elements of a list, by strict comparison with the one kept so far. -/
def maximum (first : Double) (rest : List Double) : Double :=
  rest.foldl (fun kept x => if kept.lt x then x else kept) first

/-- The first of the least elements of a list, by strict comparison with the one kept so far. -/
def minimum (first : Double) (rest : List Double) : Double :=
  rest.foldl (fun kept x => if x.lt kept then x else kept) first

end Double
end Formula
