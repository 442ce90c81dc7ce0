/-!
# Heights of patterns

The parts of a pattern lie inside one another. A single character has height zero, and a part lies
one higher than the highest part inside it. Parts side by side are one part more if there are two
or more of them. The height of a pattern is limited.
-/

namespace TrackSieve.Log.Pattern

/-- The greatest height that a pattern may have. -/
def heightLimit : Nat := 250

/-- Parts side by side: how many there are, and the height of the highest of them, which is zero
without any. -/
structure Row where
  count : Nat
  highest : Nat

namespace Row

/-- No parts. -/
def empty : Row := ⟨0, 0⟩

/-- A row with one more part of some height. -/
def push (r : Row) (height : Nat) : Row := ⟨r.count + 1, max r.highest height⟩

/-- A row of which the last part has grown to some height. -/
def raise (r : Row) (height : Nat) : Row := { r with highest := max r.highest height }

/-- The height of the parts taken together. -/
def height (r : Row) : Nat := if r.count ≤ 1 then r.highest else r.highest + 1

end Row

end TrackSieve.Log.Pattern
