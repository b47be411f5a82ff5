/-!
# Formula.Text.Lines

The lines of a text.
-/

namespace Formula
namespace Text

/-- The parts of a text between the characters that end a line; there is at least one. -/
def linesBy (ends : Char → Bool) : List Char → List (List Char)
  | [] => [[]]
  | c :: rest =>
    if ends c then [] :: linesBy ends rest
    else match linesBy ends rest with
      | [] => [[c]]
      | first :: others => (c :: first) :: others

/-- The lines that newlines separate. -/
def lines (s : List Char) : List (List Char) :=
  linesBy (· = '\n') s

/-- Characters that end a line in Unicode, and the three largest of the information separators. -/
def isLineEnd (c : Char) : Bool :=
  [10, 11, 12, 13, 28, 29, 30, 133, 8232, 8233].contains c.toNat

end Text
end Formula
