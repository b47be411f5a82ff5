import Formula.Decimal.Basic

/-!
# Formula.Decimal.Shortest

The shortest decimal number that reads back as a given double. On the grid of one significant
digit, then of two, and so on, the two neighbours of the exact value are read back; the first
grid on which one of them gives the double wins, and of two such neighbours the nearer one.
`toDouble_shortest` says that the result always reads back.
-/

-- Powers are taken with the instance of the core library, whatever other instances are known.
attribute [local instance (10000)] instPowNat

namespace Formula
namespace Decimal

/-- The exponent `e` with `10 ^ e ≤ num / den < 10 ^ (e + 1)`, for a positive ratio. -/
def magnitude (num den : Nat) : Int :=
  if den ≤ num then ((natDigits (num / den)).length : Int) - 1
  else
    let length := (natDigits (den / num)).length
    if den ≤ num * 10 ^ (length - 1) then -((length : Int) - 1) else -(length : Int)

/-- The neighbours below and above of `n` units on the grid of multiples of `10 ^ exponent`, and
whether the upper one is the nearer; a tie goes to the even one. -/
def neighbours (n : Nat) (exponent : Int) : Nat × Nat × Bool :=
  let ratio := match exponent with
    | .ofNat e => (n, unitsPerOne * 10 ^ e)
    | .negSucc e => (n * 10 ^ (e + 1), unitsPerOne)
  let below := ratio.1 / ratio.2
  let rest := ratio.1 % ratio.2
  (below, below + 1, decide (ratio.2 < 2 * rest ∨ (ratio.2 = 2 * rest ∧ below % 2 = 1)))

def readsBack (x : Double) (d : Decimal) : Bool :=
  decide (d.toDouble x.isNegative = x)

/-- The two neighbours of `n` units on the grid of `precision` significant digits, the nearer one
first. -/
def candidates (n precision : Nat) : List Decimal :=
  let exponent := magnitude n unitsPerOne - (precision : Int) + 1
  let (below, above, nearerAbove) := neighbours n exponent
  if nearerAbove then [⟨above, exponent⟩, ⟨below, exponent⟩]
  else [⟨below, exponent⟩, ⟨above, exponent⟩]

/-- The first neighbour on the grid that reads back as `x`, a double of `n` units. -/
def onGrid? (x : Double) (n precision : Nat) : Option Decimal :=
  (candidates n precision).find? (readsBack x)

/-- All digits of `n` units. -/
def exact (n : Nat) : Decimal := ⟨n * 5 ^ unitExponent, -(unitExponent : Int)⟩

def search (x : Double) (n : Nat) : List Nat → Decimal
  | [] => exact n
  | precision :: rest =>
    match onGrid? x n precision with
    | some d => d
    | none => search x n rest

/-- The shortest decimal that reads back as the double `x`, whose magnitude is `n` units. -/
def shortest (x : Double) (n : Nat) : Decimal :=
  if n = 0 then ⟨0, 0⟩ else search x n (List.range' 1 17)

theorem toDouble_onGrid {x : Double} {n precision : Nat} {d : Decimal}
    (h : onGrid? x n precision = some d) : d.toDouble x.isNegative = x := by
  have hr : readsBack x d = true := List.find?_some h
  exact of_decide_eq_true hr

theorem toDouble_exact {s : Bool} {n : Nat} (h : Format.double.Holds n) :
    (exact n).toDouble s = .finite s n h := by
  have hm : n * 5 ^ unitExponent * unitsPerOne = n * 10 ^ unitExponent := by
    rw [unitsPerOne, Nat.mul_assoc, ← Nat.mul_pow]
  rw [exact, toDouble_neg, hm]
  exact Double.ofRatio_of_holds h (Nat.pow_pos (by decide))

theorem toDouble_search {s : Bool} {n : Nat} (h : Format.double.Holds n) (precisions : List Nat) :
    (search (.finite s n h) n precisions).toDouble s = .finite s n h := by
  induction precisions with
  | nil => exact toDouble_exact h
  | cons precision rest ih =>
    unfold search
    split
    · rename_i d hd
      exact toDouble_onGrid hd
    · exact ih

theorem toDouble_shortest {s : Bool} {n : Nat} (h : Format.double.Holds n) :
    (shortest (.finite s n h) n).toDouble s = .finite s n h := by
  unfold shortest
  split
  · rename_i h0
    subst h0
    exact toDouble_zero s
  · exact toDouble_search h _

end Decimal
end Formula
