import Boilerplate.Text.Blank

/-! Flags of a pattern. They change from their place up to the end of the group around them. -/
namespace Boilerplate.Pattern
open Text

structure Flags where
  ignoresCase : Bool
  isMultiline : Bool
  /-- A point stands for the ends of lines too. -/
  crossesLines : Bool
  /-- Repetitions are short, and long with a question mark. -/
  prefersShort : Bool
  isUnicode : Bool
  /-- Lines may end in returns. -/
  hasReturns : Bool
  /-- Blanks and comments are no part of the pattern. -/
  skipsBlanks : Bool
deriving DecidableEq, Repr

namespace Flags

/-- Texts are Unicode, and all else is off. -/
def standard : Flags where
  ignoresCase := false
  isMultiline := false
  crossesLines := false
  prefersShort := false
  isUnicode := true
  hasReturns := false
  skipsBlanks := false

def set? (flags : Flags) (isOn : Bool) : Char → Option Flags
  | 'i' => some { flags with ignoresCase := isOn }
  | 'm' => some { flags with isMultiline := isOn }
  | 's' => some { flags with crossesLines := isOn }
  | 'U' => some { flags with prefersShort := isOn }
  | 'u' => some { flags with isUnicode := isOn }
  | 'R' => some { flags with hasReturns := isOn }
  | 'x' => some { flags with skipsBlanks := isOn }
  | _ => none

/-- Flags to set and, after a dash, flags to clear, of which there is one at least. No flag stands
twice. -/
def change? (flags : Flags) (letters : List Char) : Option Flags := do
  let on := letters.takeWhile (· != '-')
  let off := (letters.dropWhile (· != '-')).drop 1
  if (letters.contains '-' && off.isEmpty) || !decide (on ++ off).Nodup then none
  let flags ← on.foldlM (fun flags letter => flags.set? true letter) flags
  off.foldlM (fun flags letter => flags.set? false letter) flags

/-- What is left without blanks and comments in front. Comments end with their line. -/
def skipRemarks : Bool → List Char → List Char
  | _, [] => []
  | true, c :: cs => skipRemarks (c != '\n') cs
  | false, c :: cs =>
    if c == '#' then skipRemarks true cs
    else if isBlank c then skipRemarks false cs
    else c :: cs

/-- The pattern ahead. -/
def skip (flags : Flags) (cs : List Char) : List Char :=
  if flags.skipsBlanks then skipRemarks false cs else cs

end Flags
end Boilerplate.Pattern
