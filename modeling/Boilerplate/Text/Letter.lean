import Boilerplate.Text.Alphabetic
import Boilerplate.Text.Numeric

/-! Letters and digits of names, in any script. -/
namespace Boilerplate.Text

def isLetter (c : Char) : Bool :=
  if c.toNat < 128 then c.isAlpha else alphabeticBeyondAscii.contains c

def isNumber (c : Char) : Bool :=
  if c.toNat < 128 then c.isDigit else numericBeyondAscii.contains c

def isAlphanumeric (c : Char) : Bool := isLetter c || isNumber c

end Boilerplate.Text
