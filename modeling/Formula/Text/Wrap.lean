import Formula.Text.Blank
import Formula.Text.Cluster
import Formula.Text.Lines

/-!
# Formula.Text.Wrap

Text in a column of cells. A column is made for the longest of a text's lines, whatever character
ends them, but only newlines are kept as breaks; where that leaves too much on a line, it is broken
again before a word, and a word that fits on no line is cut and marked with an ellipsis.
-/

namespace Formula
namespace Text

/-- How many blanks a text ends in. -/
def blanksAtEnd (s : List Char) : Nat :=
  (s.reverse.takeWhile isBlank).length

def trimEnd (s : List Char) : List Char :=
  s.take (s.length - blanksAtEnd s)

/-- A text in parts, each of them from its first character that is not blank to the next after
blanks; blanks at the start of the text are a part of their own. -/
def blankRuns : List Char → List (List Char)
  | [] => []
  | c :: rest =>
    match blankRuns rest with
    | (d :: run) :: others =>
      if isBlank c && !isBlank d then [c] :: (d :: run) :: others
      else (c :: d :: run) :: others
    | others => [c] :: others

/-- The words of a text, each with the blanks after it, and the first one also with the blanks
before it. -/
def words (s : List Char) : List (List Char) :=
  match blankRuns s with
  | first :: second :: others =>
    if first.all isBlank then (first ++ second) :: others else first :: second :: others
  | few => few

/-- Words after a line that takes `cells`: what of them goes on that line, and the lines after it.
A word goes on a line if it fits there without the blanks after it. -/
def fillFrom (limit cells : Nat) : List (List Char) → List Char × List (List Char)
  | [] => ([], [])
  | word :: rest =>
    if cells + width (trimEnd word) ≤ limit then
      let (line, others) := fillFrom limit (cells + width word) rest
      (word ++ line, others)
    else
      let (line, others) := fillFrom limit (width word) rest
      ([], (word ++ line) :: others)

/-- Words in lines. The first word stands on the first line whether it fits or not. -/
def fill (limit : Nat) : List (List Char) → List (List Char)
  | [] => [[]]
  | word :: rest =>
    let (line, others) := fillFrom limit (width word) rest
    (word ++ line) :: others

/-- Without as many blanks at the end as there are characters beyond the limit. -/
def dropExcess (limit : Nat) (line : List Char) : List Char :=
  line.take (line.length - min (blanksAtEnd line) (line.length - limit))

/-- A line cut to the limit, if it is longer, with an ellipsis in place of what is missing. -/
def cut (limit : Nat) (line : List Char) : List Char :=
  if width line ≤ limit then line else takeCells (limit - 1) line ++ ['…']

/-- A text in lines of at most `limit` cells. -/
def wrap (limit : Nat) (s : List Char) : List (List Char) :=
  (lines s).flatMap fun line =>
    (fill limit (words line)).map fun part => cut limit (dropExcess limit part)

/-- The cells of the longest line of a text. -/
def extent (s : List Char) : Nat :=
  (linesBy isLineEnd s).foldl (fun n line => max n (width line)) 0

end Text
end Formula
