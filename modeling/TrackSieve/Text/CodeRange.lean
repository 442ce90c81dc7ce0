/-!
# Ranges of code points

A large class of characters is tabulated as the ranges of its code points, each with its first and
last member.
-/

namespace TrackSieve.Text

/-- Whether a character lies in one of some ranges of code points. -/
def within (ranges : List (Nat × Nat)) (c : Char) : Bool :=
  ranges.any fun (first, last) => first ≤ c.toNat && c.toNat ≤ last

end TrackSieve.Text
