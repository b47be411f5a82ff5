import Formula.Double.Basic
import Formula.Decimal.Shortest

/-!
# Formula.Decimal.Layout

How doubles are written. `Double.literal` writes the shortest digits that read back: positional
from 0.0001 up to 10¹⁶ with at least one digit after the point, otherwise with an exponent of at
least two digits. `Double.display` drops the point of an integral number and gives all its digits.
-/

namespace Formula
namespace Decimal

def zeros (n : Nat) : List Char := List.replicate n '0'

/-- The digits without trailing zeros, and the place of the point counted from the first digit. -/
def normalize (d : Decimal) : List Char × Int :=
  let written := natDigits d.digits
  let kept := (written.reverse.dropWhile (· = '0')).reverse
  (if kept = [] then ['0'] else kept, (written.length : Int) + d.exponent)

/-- Digits with a point after the first `place` of them. -/
def positional (digits : List Char) (place : Int) : List Char :=
  if place ≤ 0 then
    '0' :: '.' :: (zeros place.natAbs ++ digits)
  else if (digits.length : Int) ≤ place then
    digits ++ zeros (place.toNat - digits.length) ++ ['.', '0']
  else
    digits.take place.toNat ++ '.' :: digits.drop place.toNat

def exponentDigits (n : Nat) : List Char :=
  if n < 10 then '0' :: natDigits n else natDigits n

/-- One digit before the point, which is left out when no digit follows, and the exponent. -/
def scientific (digits : List Char) (exponent : Int) : List Char :=
  let sign := if exponent < 0 then '-' else '+'
  let fraction := if digits.length ≤ 1 then [] else '.' :: digits.drop 1
  digits.take 1 ++ fraction ++ 'e' :: sign :: exponentDigits exponent.natAbs

/-- Positional when the first digit stands at 10⁻⁴ to 10¹⁵. -/
def layout (d : Decimal) : List Char :=
  let (digits, place) := d.normalize
  if -4 < place ∧ place ≤ 16 then positional digits place
  else scientific digits (place - 1)

end Decimal

namespace Double

def withSign (negative : Bool) (text : List Char) : List Char :=
  if negative then '-' :: text else text

def literalChars : Double → List Char
  | .nan => "nan".toList
  | .infinite s => withSign s "inf".toList
  | .finite s n h => withSign s (Decimal.shortest (.finite s n h) n).layout

/-- The shortest text that reads back, with a point or an exponent. -/
def literal (x : Double) : String := String.ofList x.literalChars

def displayChars (x : Double) : List Char :=
  match x.toInt? with
  | some n => Decimal.intDigits n
  | none => x.literalChars

/-- Integral numbers as integers, others as `literal` writes them. -/
def display (x : Double) : String := String.ofList x.displayChars

end Double
end Formula
