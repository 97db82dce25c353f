/-! Sets of characters given by closed ranges of code points, which is how the tables of
character properties are written down. -/
namespace Boilerplate.Text

/-- Closed ranges of code points, in increasing order. -/
abbrev CodePoints := List (Nat × Nat)

namespace CodePoints

def contains (ranges : CodePoints) (c : Char) : Bool :=
  ranges.any fun range => range.1 ≤ c.toNat && c.toNat ≤ range.2

end CodePoints
end Boilerplate.Text
