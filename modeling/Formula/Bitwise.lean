/-!
# Formula.Bitwise

Conjunction and disjunction of integers of any size, bit by bit in two's complement. A negative
number `-(n + 1)` has the complements of the bits of `n`.
-/

namespace Formula
namespace Bitwise

/-- The bits of `m` that are not bits of `n`. -/
def without (m n : Nat) : Nat :=
  m ^^^ (m &&& n)

def and : Int → Int → Int
  | .ofNat m, .ofNat n => Int.ofNat (m &&& n)
  | .ofNat m, .negSucc n => Int.ofNat (without m n)
  | .negSucc m, .ofNat n => Int.ofNat (without n m)
  | .negSucc m, .negSucc n => Int.negSucc (m ||| n)

def or : Int → Int → Int
  | .ofNat m, .ofNat n => Int.ofNat (m ||| n)
  | .ofNat m, .negSucc n => Int.negSucc (without n m)
  | .negSucc m, .ofNat n => Int.negSucc (without m n)
  | .negSucc m, .negSucc n => Int.negSucc (m &&& n)

end Bitwise
end Formula
