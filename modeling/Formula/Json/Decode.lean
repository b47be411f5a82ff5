import Formula.Json.Number
import Formula.Json.Text

/-!
# Formula.Json.Decode

The value of a JSON text. `NaN`, `Infinity` and `-Infinity` are numbers too. A later field of an
object replaces an earlier one of the same name in its place.

This is idealised: an integer may have any number of digits, arrays and objects may be nested to any
depth, and a lone surrogate, which is no Unicode scalar value, is read as the replacement character.
-/

namespace Formula
namespace Json

/-- Adds a field, in place of an earlier one of the same name. -/
def setField (fields : List (String × Value)) (key : String) (v : Value) : List (String × Value) :=
  match fields with
  | [] => [(key, v)]
  | (k, w) :: rest => if k = key then (k, v) :: rest else (k, w) :: setField rest key v

mutual

/-- A value at the head of a text that starts with no space. -/
def readValue : Nat → List Char → Read Value
  | 0, _ => none
  | fuel + 1, s =>
    match s with
    | '"' :: rest => (readString (rest.length + 1) [] rest).map fun (t, rest) => (.string t, rest)
    | '[' :: rest =>
      match skipSpace rest with
      | ']' :: rest => some (.list [], rest)
      | rest => readItems fuel [] rest
    | '\x7b' :: rest =>
      match skipSpace rest with
      | '\x7d' :: rest => some (.record [], rest)
      | rest => readFields fuel [] rest
    | 'n' :: rest => (afterWord? ['u', 'l', 'l'] rest).map fun rest => (.null, rest)
    | 't' :: rest => (afterWord? ['r', 'u', 'e'] rest).map fun rest => (.bool true, rest)
    | 'f' :: rest => (afterWord? ['a', 'l', 's', 'e'] rest).map fun rest => (.bool false, rest)
    | 'N' :: rest => (afterWord? ['a', 'N'] rest).map fun rest => (.double .nan, rest)
    | 'I' :: _ =>
      (afterWord? "Infinity".toList s).map fun rest => (.double (.infinite false), rest)
    | '-' :: rest =>
      match afterWord? "Infinity".toList rest with
      | some rest => some (.double (.infinite true), rest)
      | none => readNumber true rest
    | _ => readNumber false s

/-- The elements of a list from the next one to the closing bracket. -/
def readItems : Nat → List Value → List Char → Read Value
  | 0, _, _ => none
  | fuel + 1, items, s =>
    match readValue fuel s with
    | none => none
    | some (v, rest) =>
      match skipSpace rest with
      | ']' :: rest => some (.list (items ++ [v]), rest)
      | ',' :: rest => readItems fuel (items ++ [v]) (skipSpace rest)
      | _ => none

/-- The fields of an object from the next one to the closing brace. -/
def readFields : Nat → List (String × Value) → List Char → Read Value
  | 0, _, _ => none
  | fuel + 1, fields, s =>
    match s with
    | '"' :: rest =>
      match readString (rest.length + 1) [] rest with
      | none => none
      | some (key, rest) =>
        match skipSpace rest with
        | ':' :: rest =>
          match readValue fuel (skipSpace rest) with
          | none => none
          | some (v, rest) =>
            let fields := setField fields key v
            match skipSpace rest with
            | '\x7d' :: rest => some (.record fields, rest)
            | ',' :: rest => readFields fuel fields (skipSpace rest)
            | _ => none
        | _ => none
    | _ => none

end

/-- The value of a JSON text, with space around it. -/
def decode (s : String) : Option Value :=
  let text := skipSpace s.toList
  match readValue (2 * text.length + 2) text with
  | some (v, rest) => if skipSpace rest = [] then some v else none
  | none => none

end Json
end Formula
