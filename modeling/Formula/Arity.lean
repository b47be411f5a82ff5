import Formula.Decimal.Basic

/-!
# Formula.Arity

How many arguments a function accepts.
-/

namespace Formula

inductive Arity where
  | exactly (count : Nat)
  | atLeast (count : Nat)
  | atMost (count : Nat)
deriving DecidableEq, Repr

/-- Why a kind and a count are no arity. -/
inductive ArityFault where
  | unknownKind (kind : String)
  | negativeCount
deriving DecidableEq, Repr

namespace Arity

def count : Arity → Nat
  | exactly n | atLeast n | atMost n => n

def kind : Arity → String
  | exactly _ => "exactly"
  | atLeast _ => "at least"
  | atMost _ => "at most"

/-- The bound that a kind puts on a count. -/
def bound? : String → Option (Nat → Arity)
  | "exactly" => some exactly
  | "at least" => some atLeast
  | "at most" => some atMost
  | _ => none

/-- The arity of a kind and a count. -/
def ofKind (kind : String) (count : Int) : Except ArityFault Arity :=
  match bound? kind, count with
  | none, _ => .error (.unknownKind kind)
  | some _, .negSucc _ => .error .negativeCount
  | some bound, .ofNat n => .ok (bound n)

def admits : Arity → Nat → Bool
  | exactly n, given => given = n
  | atLeast n, given => n ≤ given
  | atMost n, given => given ≤ n

def describe (a : Arity) : String :=
  a.kind ++ " " ++ Decimal.natText a.count
    ++ (if a.count = 1 then " argument" else " arguments")

end Arity
end Formula
