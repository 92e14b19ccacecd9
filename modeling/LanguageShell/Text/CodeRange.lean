/-!
Classes of characters that are given by ranges of code points.
-/

namespace LanguageShell.Text

/-- Whether the code point of the character lies in a range, ends included. -/
def inRanges (ranges : List (Nat × Nat)) (c : Char) : Bool :=
  ranges.any fun range => range.1 ≤ c.toNat && c.toNat ≤ range.2

end LanguageShell.Text
