/-!
Sets of code points given by their edges: the sorted list of the places where membership flips,
starting outside the set.
-/
namespace CodeAtlas.Text

/-- A code point is inside when the number of edges up to it is odd. -/
def inside (edges : List Nat) (c : Char) : Bool :=
  (edges.takeWhile (· ≤ c.toNat)).length % 2 == 1

end CodeAtlas.Text
