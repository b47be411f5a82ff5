/-!
# Formula.Text.Ranges

Membership in a class of characters that is listed as ascending ranges of code points.
-/

namespace Formula
namespace Text

/-- The first code point of the range that holds `n`; the ranges ascend. -/
def rangeStart? : List (Nat × Nat) → Nat → Option Nat
  | [], _ => none
  | (first, last) :: rest, n =>
    if n < first then none
    else if n ≤ last then some first
    else rangeStart? rest n

def inRanges (ranges : List (Nat × Nat)) (n : Nat) : Bool :=
  (rangeStart? ranges n).isSome

end Text
end Formula
