/-! Numbers written in hexadecimal digits of either case, and the characters they stand for. -/
namespace Boilerplate.Text.Hexadecimal

def digit? (c : Char) : Option Nat :=
  if c.isDigit then some (c.toNat - '0'.toNat)
  else if 'a' ≤ c && c ≤ 'f' then some (c.toNat - 'a'.toNat + 10)
  else if 'A' ≤ c && c ≤ 'F' then some (c.toNat - 'A'.toNat + 10)
  else none

def number? (digits : List Char) : Option Nat :=
  (digits.mapM digit?).map fun values => values.foldl (fun n value => 16 * n + value) 0

/-- The character of that code point, unless it is half a surrogate pair or too large. -/
def character? (digits : List Char) : Option Char := do
  let n ← number? digits
  if n.isValidChar then some (Char.ofNat n) else none

end Boilerplate.Text.Hexadecimal
