/-!
# Formula.Json.Basic

Reading from the head of a JSON text.
-/

namespace Formula
namespace Json

/-- Something read, and the text after it. -/
abbrev Read (α : Type) := Option (α × List Char)

def isSpace (c : Char) : Bool :=
  c = ' ' || c = '\t' || c = '\n' || c = '\r'

def skipSpace (s : List Char) : List Char :=
  s.dropWhile isSpace

/-- The text after a word. -/
def afterWord? : List Char → List Char → Option (List Char)
  | [], s => some s
  | c :: word, d :: s => if c = d then afterWord? word s else none
  | _ :: _, [] => none

end Json
end Formula
