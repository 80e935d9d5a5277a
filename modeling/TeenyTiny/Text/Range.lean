/-!
# Ranges of code points

Character properties are given as tables of code point ranges, both ends
included.
-/

namespace TeenyTiny

/-- Whether a character lies in one of the given ranges of code points. -/
def inRanges (c : Char) (ranges : List (Nat × Nat)) : Bool :=
  ranges.any fun range => range.1 ≤ c.toNat && c.toNat ≤ range.2

end TeenyTiny
