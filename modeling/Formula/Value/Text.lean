import Formula.Decimal.Layout
import Formula.Value.Basic

/-!
# Formula.Value.Text

Values as text. `describe` is the notation of messages, which quotes strings and writes numbers so
that doubles and integers differ; `plain` leaves a string as it is; `display` is what a result is
shown as, with lower-case truth values and integral numbers without a point.

This is idealised: every integer has a text, whatever the number of its digits, and every value has
one, however deep its lists are nested. Strings are made of Unicode scalar values, so that there are
no lone surrogates to write.
-/

namespace Formula
namespace Value

def boolName (b : Bool) : String :=
  if b then "True" else "False"

mutual

def describe : Value → String
  | null => "None"
  | bool b => boolName b
  | int n => Decimal.intText n
  | double x => x.literal
  | string s => Text.quoted s
  | list items => "[" ++ describeAll items ++ "]"
  | tuple [item] => "(" ++ describe item ++ ",)"
  | tuple items => "(" ++ describeAll items ++ ")"
  | bytes data => Text.quotedBytes data
  | record fields => "\x7b" ++ describeFields fields ++ "\x7d"
  | host object => "<" ++ object.className ++ " " ++ object.id ++ ">"

def describeAll : List Value → String
  | [] => ""
  | [item] => describe item
  | item :: rest => describe item ++ ", " ++ describeAll rest

def describeFields : List (String × Value) → String
  | [] => ""
  | [(key, item)] => Text.quoted key ++ ": " ++ describe item
  | (key, item) :: rest => Text.quoted key ++ ": " ++ describe item ++ ", " ++ describeFields rest

end

def plain : Value → String
  | string s => s
  | v => describe v

def display : Value → String
  | bool b => if b then "true" else "false"
  | double x => x.display
  | v => plain v

end Value
end Formula
