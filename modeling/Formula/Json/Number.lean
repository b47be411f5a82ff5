import Formula.Json.Basic
import Formula.Value.Basic

/-!
# Formula.Json.Number

Numbers in JSON. A number without point and exponent is an integer, any other one a double.
-/

namespace Formula
namespace Json

def isDecimal (c : Char) : Bool :=
  '0' ≤ c && c ≤ '9'

def digitValue (c : Char) : Nat :=
  c.toNat - '0'.toNat

def natOf (digits : List Char) : Nat :=
  digits.foldl (fun n c => n * 10 + digitValue c) 0

/-- Digits at the head of a text, at least one. -/
def readDigits (s : List Char) : Read (List Char) :=
  match s.takeWhile isDecimal with
  | [] => none
  | digits => some (digits, s.dropWhile isDecimal)

/-- The whole part of a number: a zero, or digits that do not start with one. -/
def readWhole : List Char → Read (List Char)
  | '0' :: rest => some (['0'], rest)
  | s => readDigits s

/-- The digits after a point, none if there is no point with digits after it. -/
def readFraction (s : List Char) : List Char × List Char :=
  match s with
  | '.' :: rest =>
    match readDigits rest with
    | some (digits, rest) => (digits, rest)
    | none => ([], s)
  | _ => ([], s)

def readExponentDigits (s : List Char) : Read Int :=
  match s with
  | '-' :: rest => (readDigits rest).map fun (digits, rest) => (-(natOf digits : Int), rest)
  | '+' :: rest => (readDigits rest).map fun (digits, rest) => ((natOf digits : Int), rest)
  | _ => (readDigits s).map fun (digits, rest) => ((natOf digits : Int), rest)

def readExponent? (s : List Char) : Read Int :=
  match s with
  | 'e' :: rest => readExponentDigits rest
  | 'E' :: rest => readExponentDigits rest
  | _ => none

/-- An exponent brought near enough to write out. Beyond the bounds a number of this many digits
is zero or infinite, and stays so. -/
def boundExponent (digits : Nat) (exponent : Int) : Int :=
  max (-((digits : Int) + 400)) (min 400 exponent)

/-- A number after its sign. -/
def readNumber (negative : Bool) (s : List Char) : Read Value :=
  match readWhole s with
  | none => none
  | some (whole, rest) =>
    let (fraction, rest) := readFraction rest
    let real (exponent : Int) : Value :=
      let digits := whole ++ fraction
      .double (Decimal.toDouble negative
        ⟨natOf digits, boundExponent digits.length (exponent - fraction.length)⟩)
    match readExponent? rest with
    | some (exponent, rest) => some (real exponent, rest)
    | none =>
      if fraction = [] then some (.int (Double.signed negative (natOf whole)), rest)
      else some (real 0, rest)

end Json
end Formula
