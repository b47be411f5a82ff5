/-!
# Formula.Text.Fold

Comparison with ASCII words without regard to case. A character is folded if its full case folding
is ASCII; any other one is left alone, as it occurs in no ASCII word either way.
-/

namespace Formula
namespace Text

def foldChar (c : Char) : List Char :=
  if 'A' ≤ c ∧ c ≤ 'Z' then [Char.ofNat (c.toNat + 32)]
  else
    match c with
    | 'ß' => ['s', 's']
    | 'ẞ' => ['s', 's']
    | 'ſ' => ['s']
    | 'K' => ['k']
    | 'ﬀ' => ['f', 'f']
    | 'ﬁ' => ['f', 'i']
    | 'ﬂ' => ['f', 'l']
    | 'ﬃ' => ['f', 'f', 'i']
    | 'ﬄ' => ['f', 'f', 'l']
    | 'ﬅ' => ['s', 't']
    | 'ﬆ' => ['s', 't']
    | c => [c]

def fold (s : String) : List Char :=
  s.toList.flatMap foldChar

end Text
end Formula
