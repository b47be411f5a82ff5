import Formula.Decimal.Basic
import Formula.Text.Lines

/-!
# Formula.Location

A place in a source text and the snippet that shows it: the line and column, the source line with
its number, and a caret under the character.
-/

namespace Formula

/-- A position counts characters from 0. It may lie outside the text: a position before the start
counts from the end where a part of the text is cut off. -/
structure Location where
  source : String
  position : Int
deriving DecidableEq

namespace Location

/-- How many characters stand before the position. -/
def cut (l : Location) : Nat :=
  if l.position < 0 then (l.source.toList.length + l.position).toNat else l.position.toNat

/-- The text before the position. -/
def before (l : Location) : List Char :=
  l.source.toList.take l.cut

/-- The line of the position, from 1. -/
def line (l : Location) : Nat :=
  l.before.count '\n' + 1

/-- Where the line of the position starts. -/
def lineStart (l : Location) : Nat :=
  l.before.length - (l.before.reverse.takeWhile (· ≠ '\n')).length

/-- The column of the position, from 1. -/
def column (l : Location) : Int :=
  l.position - l.lineStart + 1

def lineText (l : Location) : List Char :=
  match (Text.lines l.source.toList)[l.line - 1]? with
  | some text => text
  | none => []

/-- The line number, right-aligned in four places, and a bar. -/
def margin (l : Location) : List Char :=
  let number := Decimal.natDigits l.line
  List.replicate (4 - number.length) ' ' ++ number ++ [' ', '|', ' ']

/-- How many spaces stand before the caret. -/
def indent (l : Location) : Nat :=
  ((l.margin.length : Int) + l.column - 1).toNat

def render (l : Location) : String :=
  "line " ++ Decimal.natText l.line ++ ", column " ++ Decimal.intText l.column ++ "\n"
    ++ String.ofList (l.margin ++ l.lineText ++ '\n' :: (List.replicate l.indent ' ' ++ ['^']))

end Location
end Formula
