import Formula.Text.Width

/-!
# Formula.Text.Cluster

The cells of a text. Characters that a terminal shows as one are measured together: a mark belongs
to the character before it, a joiner ties the next character to it, and a picture selector makes
the character that was measured last wide if it has a picture.
-/

namespace Formula
namespace Text

def joiner : Char := '\u200d'

def pictureSelector : Char := '\ufe0f'

/-- Characters that are shown as one, with the cells that they take together. -/
structure Cluster where
  chars : List Char
  cells : Nat

def Cluster.extend (k : Cluster) (c : Char) (cells : Nat) : Cluster :=
  ⟨k.chars ++ [c], k.cells + cells⟩

/-- The clusters of the rest of a text, the first of them begun. `last` is the character that took
cells last, and `joined` says whether the character before is a joiner. -/
def clustersFrom (begun : Cluster) (last : Option Char) (joined : Bool) :
    List Char → List Cluster
  | [] => [begun]
  | c :: rest =>
    if joined then clustersFrom (begun.extend c 0) last false rest
    else if c = joiner then clustersFrom (begun.extend c 0) last true rest
    else if c = pictureSelector && last.any hasPicture then
      clustersFrom (begun.extend c 1) none false rest
    else if charWidth c = 0 then clustersFrom (begun.extend c 0) last false rest
    else begun :: clustersFrom ⟨[c], charWidth c⟩ (some c) false rest

/-- The clusters of a text. What takes no cell at its start is a cluster of its own. -/
def clusters : List Char → List Cluster
  | [] => []
  | c :: rest =>
    clustersFrom ⟨[c], charWidth c⟩ (if charWidth c = 0 then none else some c) false rest

def cellsOf (ks : List Cluster) : Nat :=
  ks.foldl (fun n k => n + k.cells) 0

/-- The cells of a text. A joiner with nothing before it hides the character after it. -/
def width : List Char → Nat
  | [] => 0
  | [c] => charWidth c
  | c :: d :: rest => if c = joiner then width rest else cellsOf (clusters (c :: d :: rest))

/-- As many clusters as fit into a number of cells. A wide one that fits by half leaves a space. -/
def takeClusters : Nat → List Cluster → List Char
  | _, [] => []
  | 0, _ :: _ => []
  | n + 1, k :: rest =>
    if k.cells ≤ n + 1 then k.chars ++ takeClusters (n + 1 - k.cells) rest else [' ']

/-- The start of a text, cut to a number of cells. -/
def takeCells (n : Nat) (s : List Char) : List Char :=
  takeClusters n (clusters s)

end Text
end Formula
