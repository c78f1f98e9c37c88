/-!
# Sets of characters given by ranges of code points
-/

namespace TagWeave.Text

/-- Closed ranges of code points. -/
abbrev Ranges := List (Nat × Nat)

/-- Some range holds the code point of the character. -/
def Ranges.contains (ranges : Ranges) (c : Char) : Bool :=
  ranges.any fun (first, last) => first ≤ c.toNat && c.toNat ≤ last

end TagWeave.Text
