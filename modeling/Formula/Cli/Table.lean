import Formula.Text.Wrap
import Formula.Token.Basic

/-!
# Formula.Cli.Table

The table of the tokens of an expression. A column is as wide as its longest line, with a space on
either side; a text of several lines makes a row of several lines.
-/

namespace Formula
namespace Cli

/-- Control characters that a terminal would act on are left out of what is shown. -/
def isShown (c : Char) : Bool :=
  !([7, 8, 11, 12, 13].contains c.toNat)

def spaces (n : Nat) : List Char := List.replicate n ' '

/-- Whether a text starts, after an opening bracket, like the inside of a markup tag that is closed
before another bracket opens. -/
def opensTag : List Char → Bool
  | [] => false
  | c :: rest =>
    (('a' ≤ c && c ≤ 'z') || c = '#' || c = '/' || c = '@')
      && (rest.dropWhile fun d => d ≠ '[' && d ≠ ']').head? = some ']'

/-- A backslash before an opening bracket disappears unless the bracket opens a tag. -/
def unescape : List Char → List Char
  | [] => []
  | '\\' :: '[' :: rest =>
    if opensTag rest then '\\' :: '[' :: unescape rest else '[' :: unescape rest
  | c :: rest => c :: unescape rest

/-- Whether a text ends in one backslash but not in two. -/
def endsInBackslash (s : List Char) : Bool :=
  match s.reverse with
  | '\\' :: '\\' :: _ => false
  | '\\' :: _ => true
  | _ => false

/-- A text as a cell shows it. -/
def cellText (s : String) : List Char :=
  let chars := s.toList
  (unescape chars ++ (if endsInBackslash chars then ['\\'] else [])).filter isShown

structure Column where
  heading : String
  rightAligned : Bool

def columns : List Column :=
  [⟨"Pos", true⟩, ⟨"Kind", false⟩, ⟨"Text", false⟩, ⟨"Value", false⟩]

/-- The cells of a token. -/
def tokenCells (t : Token) : List (List Char) :=
  [Decimal.natDigits t.position, t.kind.name.toList, cellText t.text, cellText t.lexeme.display]

def columnWidth (heading : List Char) (cells : List (List Char)) : Nat :=
  (heading :: cells).foldl (fun n cell => max n (Text.extent cell)) 0

/-- A line filled up with spaces. A joiner at its end hides the first of them, and one more makes up
for it. -/
def fillUp (width : Nat) (line : List Char) : List Char :=
  let filled := line ++ spaces (width - Text.width line)
  filled ++ spaces (width - Text.width filled)

/-- A line of a cell between its spaces, filled up to the width of the column. -/
def pad (rightAligned : Bool) (width : Nat) (line : List Char) : List Char :=
  let filled := if rightAligned then spaces (width - Text.width line) ++ line
    else fillUp width line
  ' ' :: (filled ++ [' '])

/-- A line of a table: parts with a bar before, between and after them. -/
def barred (bar : Char) (parts : List (List Char)) : List Char :=
  bar :: (parts.flatMap fun part => part ++ [bar])

def ruled (left line cross right : Char) (widths : List Nat) : List Char :=
  left :: ((widths.map fun w => List.replicate (w + 2) line).intersperse [cross]).flatten ++ [right]

/-- The lines of a row, as many as its highest cell has. -/
def rowLines (widths : List Nat) (cells : List (List Char)) : List (List Char) :=
  let parts := (widths.zip cells).map fun (width, cell) => Text.wrap width cell
  let height := parts.foldl (fun n lines => max n lines.length) 1
  (List.range height).map fun i =>
    barred '│' ((columns.zip (widths.zip parts)).map fun (column, width, lines) =>
      pad column.rightAligned width (lines[i]?.getD []))

def headingLine (widths : List Nat) : List Char :=
  barred '┃' ((columns.zip widths).map fun (column, width) =>
    pad column.rightAligned width column.heading.toList)

/-- A title in the middle of a line of the given width; an odd space goes to the right. -/
def centred (width : Nat) (title : List Char) : List Char :=
  let free := width - title.length
  spaces (free / 2) ++ title ++ spaces (free - free / 2)

def widthsOf (rows : List (List (List Char))) : List Nat :=
  columns.zipIdx.map fun (column, i) =>
    columnWidth column.heading.toList (rows.map fun cells => cells[i]?.getD [])

def tokenTable (tokens : List Token) : String :=
  let rows := tokens.map tokenCells
  let widths := widthsOf rows
  let total := widths.foldl (fun n w => n + w + 3) 1
  let lines :=
    [centred total "Tokens".toList, ruled '┏' '━' '┳' '┓' widths, headingLine widths,
      ruled '┡' '━' '╇' '┩' widths]
      ++ rows.flatMap (rowLines widths)
      ++ [ruled '└' '─' '┴' '┘' widths]
  String.ofList (lines.flatMap fun line => line ++ ['\n'])

end Cli
end Formula
