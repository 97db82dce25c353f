import Boilerplate.Text.CodePoints

/-! Sets of characters as patterns write them: ranges of code points, and operations on sets. -/
namespace Boilerplate.Pattern
open Text

inductive CharSet where
  | points (codes : CodePoints)
  | union (left right : CharSet)
  | intersection (left right : CharSet)
  | complement (set : CharSet)
  /-- With the other case of every ASCII letter. -/
  | anyCase (set : CharSet)
deriving DecidableEq, Repr

namespace CharSet

/-- The other case of an ASCII letter. All else has one case. -/
def otherCase (c : Char) : Char := if c.isUpper then c.toLower else c.toUpper

def contains : CharSet → Char → Bool
  | points codes, c => CodePoints.contains codes c
  | union left right, c => left.contains c || right.contains c
  | intersection left right, c => left.contains c && right.contains c
  | complement set, c => !set.contains c
  | anyCase set, c => set.contains c || set.contains (otherCase c)

def empty : CharSet := points []

def single (c : Char) : CharSet := points [(c.toNat, c.toNat)]

def difference (left right : CharSet) : CharSet := intersection left (complement right)

def symmetricDifference (left right : CharSet) : CharSet :=
  union (difference left right) (difference right left)

/-- The sets of ASCII characters that have a name. -/
def named? : String → Option CodePoints
  | "alnum" => some [(0x30, 0x39), (0x41, 0x5a), (0x61, 0x7a)]
  | "alpha" => some [(0x41, 0x5a), (0x61, 0x7a)]
  | "ascii" => some [(0x00, 0x7f)]
  | "blank" => some [(0x09, 0x09), (0x20, 0x20)]
  | "cntrl" => some [(0x00, 0x1f), (0x7f, 0x7f)]
  | "digit" => some [(0x30, 0x39)]
  | "graph" => some [(0x21, 0x7e)]
  | "lower" => some [(0x61, 0x7a)]
  | "print" => some [(0x20, 0x7e)]
  | "punct" => some [(0x21, 0x2f), (0x3a, 0x40), (0x5b, 0x60), (0x7b, 0x7e)]
  | "space" => some [(0x09, 0x0d), (0x20, 0x20)]
  | "upper" => some [(0x41, 0x5a)]
  | "word" => some [(0x30, 0x39), (0x41, 0x5a), (0x5f, 0x5f), (0x61, 0x7a)]
  | "xdigit" => some [(0x30, 0x39), (0x41, 0x46), (0x61, 0x66)]
  | _ => none

end CharSet
end Boilerplate.Pattern
