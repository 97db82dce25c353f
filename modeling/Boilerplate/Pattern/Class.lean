import Boilerplate.Pattern.Flags
import Boilerplate.Pattern.Regex
import Boilerplate.Text.Hexadecimal

/-! Reading what stands for one character: escapes, and sets in brackets. Tables of Unicode
properties are not at hand: what would need one is malformed, and so is, without Unicode, a set with
characters beyond ASCII. -/
namespace Boilerplate.Pattern
open Text

/-- What follows a backslash. -/
inductive Escape where
  | literal (c : Char)
  | set (set : CharSet)
  | assertion (assertion : Assertion)
deriving DecidableEq, Repr

namespace Escape

/-- The number of hexadecimal digits after a letter. -/
def digitCount? : Char → Option Nat
  | 'x' => some 2
  | 'u' => some 4
  | 'U' => some 8
  | _ => none

def control? : Char → Option Char
  | 'a' => some '\x07'
  | 'f' => some '\x0c'
  | 't' => some '\t'
  | 'n' => some '\n'
  | 'r' => some '\r'
  | 'v' => some '\x0b'
  | _ => none

/-- Escapes that go by Unicode properties unless Unicode is off. -/
def ofProperty? : Char → Option Escape
  | 'd' => (CharSet.named? "digit").map fun codes => set (.points codes)
  | 's' => (CharSet.named? "space").map fun codes => set (.points codes)
  | 'w' => (CharSet.named? "word").map fun codes => set (.points codes)
  | 'b' => some (assertion .wordBoundary)
  | 'B' => some (assertion .noWordBoundary)
  | '<' => some (assertion .wordStart)
  | '>' => some (assertion .wordEnd)
  | _ => none

/-- An escape of one character. ASCII characters that mean nothing else stand for themselves. -/
def ofChar? (flags : Flags) (c : Char) : Option Escape :=
  match control? c with
  | some control => some (literal control)
  | none =>
    if c == 'A' then some (assertion .textStart)
    else if c == 'z' then some (assertion .textEnd)
    else if (ofProperty? c).isSome then (if flags.isUnicode then none else ofProperty? c)
    else if c.toNat < 0x80 && !c.isAlphanum then some (literal c)
    else none

/-- Reads an escape after its backslash. Without Unicode two digits are a byte. -/
def read (flags : Flags) : List Char → Option (Escape × List Char)
  | [] => none
  | c :: rest => do
    match digitCount? c with
    | none => return (← ofChar? flags c, rest)
    | some count =>
      if rest.length < count then none
      let character ← Hexadecimal.character? (rest.take count)
      if !flags.isUnicode && c == 'x' && 0x80 ≤ character.toNat then none
      return (literal character, rest.drop count)

end Escape

namespace CharSet

def ofEscape? (flags : Flags) : Escape → Option CharSet
  | .literal c => if flags.isUnicode || c.toNat < 0x80 then some (single c) else none
  | .set set => some set
  | .assertion _ => none

/-- The set in both cases, if cases are ignored. -/
def folded (flags : Flags) (set : CharSet) : CharSet :=
  if flags.ignoresCase then anyCase set else set

/-- Reads a character or an escape. -/
def readMember (flags : Flags) : List Char → Option (Escape × List Char)
  | [] => none
  | '\\' :: rest => Escape.read flags rest
  | c :: rest => some (.literal c, rest)

/-- Reads a member or a range. A dash before the closing bracket or another dash makes no range. -/
def readRange (flags : Flags) (cs : List Char) : Option (CharSet × List Char) := do
  let (first, rest) ← readMember flags cs
  match flags.skip rest with
  | '-' :: more =>
    let more := flags.skip more
    if more.head? == some ']' || more.head? == some '-' then
      return (← ofEscape? flags first, flags.skip rest)
    let (last, more) ← readMember flags more
    match first, last with
    | .literal low, .literal high =>
      if high < low then none
      if !flags.isUnicode && 0x80 ≤ high.toNat then none
      return (points [(low.toNat, high.toNat)], more)
    | _, _ => none
  | rest => return (← ofEscape? flags first, rest)

/-- Reads a name between colons after a bracket, with a caret if all but its set is meant. -/
def readNamed : List Char → Option (Bool × CharSet × List Char)
  | ':' :: cs => do
    let isNegated := cs.head? == some '^'
    let cs := if isNegated then cs.drop 1 else cs
    match cs.dropWhile (· != ':') with
    | ':' :: ']' :: rest =>
      return (isNegated, points (← named? (String.ofList (cs.takeWhile (· != ':')))), rest)
    | _ => none
  | _ => none

/-- The set or, where that is meant, all other characters. -/
def negatedIf? (flags : Flags) (isNegated : Bool) (set : CharSet) : Option CharSet :=
  if !isNegated then some set else if flags.isUnicode then some (complement set) else none

/-- Reads what may stand right after a bracket only: a caret, then dashes or else a closing bracket
that are members. -/
def readOpening (flags : Flags) (cs : List Char) : Option (Bool × CharSet × List Char) := do
  if flags.isUnicode && flags.ignoresCase then none
  let (isNegated, cs) := match flags.skip cs with
    | '^' :: rest => (true, flags.skip rest)
    | cs => (false, cs)
  match cs with
  | '-' :: rest => return (isNegated, single '-', rest.dropWhile (· == '-'))
  | ']' :: rest => return (isNegated, single ']', rest)
  | cs => return (isNegated, empty, cs)

/-- Reads a set after its opening. An operation takes all that stands before it, and waits for what
follows. The fuel bounds the members. -/
def read (flags : Flags) : Nat → Bool → (CharSet → CharSet) → CharSet → List Char →
    Option (CharSet × List Char)
  | 0, _, _, _, _ => none
  | fuel + 1, isNegated, operation, members, cs => do
    let operand := folded flags (operation members)
    match flags.skip cs with
    | [] => none
    | ']' :: rest => return (← negatedIf? flags isNegated operand, rest)
    | '&' :: '&' :: rest =>
      read flags fuel isNegated (fun next => intersection operand (folded flags next)) empty rest
    | '-' :: '-' :: rest =>
      read flags fuel isNegated (fun next => difference operand (folded flags next)) empty rest
    | '~' :: '~' :: rest =>
      read flags fuel isNegated (fun next => symmetricDifference operand (folded flags next)) empty
        rest
    | '[' :: rest =>
      match readNamed rest with
      | some (isOther, set, rest) =>
        let set ← negatedIf? flags isOther (folded flags set)
        read flags fuel isNegated operation (union members set) rest
      | none =>
        let (isInnerNegated, innerMembers, rest) ← readOpening flags rest
        let (inner, rest) ← read flags fuel isInnerNegated id innerMembers rest
        read flags fuel isNegated operation (union members inner) rest
    | cs =>
      let (range, rest) ← readRange flags cs
      read flags fuel isNegated operation (union members range) rest

/-- Reads a set after its bracket. -/
def readBracketed (flags : Flags) (cs : List Char) : Option (CharSet × List Char) := do
  let (isNegated, members, rest) ← readOpening flags cs
  -- Every step of the reader passes a character.
  read flags (rest.length + 1) isNegated id members rest

end CharSet
end Boilerplate.Pattern
