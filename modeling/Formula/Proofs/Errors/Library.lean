import Formula.Library
import Formula.Proofs.Double.Integral
import Formula.Proofs.Errors.Basic

/-!
# Formula.Proofs.Errors.Library

The functions of the library fail only with ordinary errors. What they do beneath is refused at
some numbers, but every such refusal is turned into a number (`functions_total`), so that a call
fails only for its name, the number of its arguments, or an argument.
-/

namespace Formula

variable {raised : Error → Prop} {args : List Value}

namespace Arguments

end Arguments

/-! ## The library -/

namespace Library

theorem roundHalfAway_finite (s : Bool) {n : Nat} (h : Format.double.Holds n) :
    roundHalfAway (.finite s n h) =
      .ok (.finite s (Double.nearestWhole n * unitsPerOne) (Double.nearestWhole_holds h)) := by
  have hthrough : (Double.finite s n h).abs.throughInt Double.roundToInt =
      .ok (.finite false (Double.nearestWhole n * unitsPerOne) (Double.nearestWhole_holds h)) :=
    Double.throughInt_roundToInt h
  rw [roundHalfAway, hthrough]
  rfl

end Library
end Formula
