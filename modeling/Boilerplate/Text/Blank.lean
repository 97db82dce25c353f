/-! Blank characters (the property White_Space) and what is left of a text without them: at its
ends, or anywhere. -/
namespace Boilerplate.Text

def isBlank (c : Char) : Bool :=
  let n := c.toNat
  (9 ≤ n && n ≤ 13) || n == 0x20 || n == 0x85 || n == 0xa0 || n == 0x1680 ||
    (0x2000 ≤ n && n ≤ 0x200a) || n == 0x2028 || n == 0x2029 || n == 0x202f || n == 0x205f ||
    n == 0x3000

def skipBlanks (cs : List Char) : List Char := cs.dropWhile isBlank

/-- The characters between the first and the last that are not blank. -/
def trimBlanks (cs : List Char) : List Char :=
  (skipBlanks (skipBlanks cs).reverse).reverse

def trim (s : String) : String := String.ofList (trimBlanks s.toList)

/-- All characters that are not blank, in order. -/
def squeeze (s : String) : List Char := s.toList.filter (!isBlank ·)

/-- Equal up to blank characters. -/
def sameButBlanks (s t : String) : Bool := squeeze s == squeeze t

theorem sameButBlanks_iff (s t : String) : sameButBlanks s t = true ↔ squeeze s = squeeze t := by
  simp [sameButBlanks]

theorem sameButBlanks_refl (s : String) : sameButBlanks s s = true := by
  simp [sameButBlanks]

theorem squeeze_append (s t : String) : squeeze (s ++ t) = squeeze s ++ squeeze t := by
  rw [squeeze, String.toList_append, List.filter_append]
  rfl

theorem squeeze_join (texts : List String) : squeeze (String.join texts) = texts.flatMap squeeze := by
  rw [squeeze, String.toList_join, List.filter_flatMap]
  rfl

end Boilerplate.Text
