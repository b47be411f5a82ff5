/-!
# Formula.Cli.Switches

Command-line options. A long option takes its value after `=` or from the next argument; short
options may stand together behind one dash, and the first of them that takes a value takes the rest
of the argument. Two dashes end the options.
-/

namespace Formula
namespace Cli

/-- What an option stands for: something by itself, or something made from its value. -/
inductive Meaning (α : Type) where
  | flag (a : α)
  | valued (make : String → α)

structure Switch (α : Type) where
  long : String
  short : Option Char
  meaning : Meaning α

/-- Options in the order given, other arguments, and what the options did not look at. -/
structure Sorted (α : Type) where
  given : List α
  operands : List String

def findLong? {α : Type} (switches : List (Switch α)) (name : String) : Option (Meaning α) :=
  (switches.find? fun s => s.long = name).map Switch.meaning

def findShort? {α : Type} (switches : List (Switch α)) (c : Char) : Option (Meaning α) :=
  (switches.find? fun s => s.short = some c).map Switch.meaning

/-- The part of a text before its first `=`, and the part after it if there is one. -/
def splitAtEquals (s : List Char) : List Char × Option (List Char) :=
  match s.dropWhile (· ≠ '=') with
  | [] => (s, none)
  | _ :: value => (s.takeWhile (· ≠ '='), some value)

/-- A long option with the value written to it, and the arguments left after it. -/
def takeLong {α : Type} (meaning : Meaning α) (value : Option (List Char)) (rest : List String) :
    Option (List α × List String) :=
  match meaning, value with
  | .flag a, none => some ([a], rest)
  | .flag _, some _ => none
  | .valued make, some v => some ([make (String.ofList v)], rest)
  | .valued make, none =>
    match rest with
    | v :: rest => some ([make v], rest)
    | [] => none

/-- Short options that stand together, and the arguments left after them. -/
def takeShort {α : Type} (switches : List (Switch α)) (rest : List String) :
    List Char → Option (List α × List String)
  | [] => some ([], rest)
  | c :: cluster =>
    match findShort? switches c with
    | none => none
    | some (.flag a) =>
      match takeShort switches rest cluster with
      | some (more, rest) => some (a :: more, rest)
      | none => none
    | some (.valued make) =>
      match cluster, rest with
      | _ :: _, _ => some ([make (String.ofList cluster)], rest)
      | [], v :: rest => some ([make v], rest)
      | [], [] => none

/-- The options of an argument that starts with a dash; none if there is no such option. -/
def takeOption {α : Type} (switches : List (Switch α)) (arg : List Char) (rest : List String) :
    Option (List α × List String) :=
  let (name, value) := splitAtEquals arg
  match findLong? switches (String.ofList name) with
  | some meaning => takeLong meaning value rest
  | none => if ['-', '-'].isPrefixOf arg then none else takeShort switches rest (arg.drop 1)

/-- Sorts arguments into options and others. With `interspersed` unset the first other argument
ends the options. The fuel is the number of arguments. -/
def sortArguments {α : Type} (interspersed : Bool) (switches : List (Switch α)) :
    Nat → List String → Option (Sorted α)
  | _, [] => some ⟨[], []⟩
  | 0, _ :: _ => none
  | fuel + 1, arg :: rest =>
    if arg = "--" then some ⟨[], rest⟩
    else
      match arg.toList with
      | '-' :: _ :: _ =>
        match takeOption switches arg.toList rest with
        | none => none
        | some (given, rest) =>
          match sortArguments interspersed switches fuel rest with
          | some sorted => some ⟨given ++ sorted.given, sorted.operands⟩
          | none => none
      | _ =>
        if interspersed then
          match sortArguments interspersed switches fuel rest with
          | some sorted => some ⟨sorted.given, arg :: sorted.operands⟩
          | none => none
        else some ⟨[], arg :: rest⟩

end Cli
end Formula
