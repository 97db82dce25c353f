import Boilerplate.Pattern.Class
import Boilerplate.Text.Letter

/-! Reading a regular expression. Counted repetitions are not read: patterns stand in braces and
hold none. -/
namespace Boilerplate.Pattern
open Text

/-- What was read of a group so far. -/
structure Progress where
  flags : Flags
  /-- The names of all groups. -/
  names : List String
  /-- The alternatives before the last. -/
  alternatives : Option Regex
  /-- The last alternative without its last item. -/
  sequence : Regex
  /-- The item that a repetition would repeat. -/
  item : Option Regex
deriving Repr

namespace Progress

def start (flags : Flags) (names : List String) : Progress := ⟨flags, names, none, .empty, none⟩

def lastAlternative (p : Progress) : Regex :=
  match p.item with
  | some item => p.sequence.andThen item
  | none => p.sequence

def regex (p : Progress) : Regex :=
  match p.alternatives with
  | some alternatives => .either alternatives p.lastAlternative
  | none => p.lastAlternative

def nextAlternative (p : Progress) : Progress :=
  { p with alternatives := some p.regex, sequence := .empty, item := none }

def add (p : Progress) (item : Regex) : Progress :=
  { p with sequence := p.lastAlternative, item := some item }

/-- No repetition may follow a change of flags. -/
def changeFlags (p : Progress) (flags : Flags) : Progress :=
  { p with flags, sequence := p.lastAlternative, item := none }

/-- The operator is repeated on the last item. A question mark after it turns its greed around. -/
def repeatItem? (p : Progress) (repetition : Bool → Regex → Regex) (cs : List Char) :
    Option (Progress × List Char) := do
  let item ← p.item
  match cs with
  | '?' :: rest => return ({ p with item := some (repetition p.flags.prefersShort item) }, rest)
  | rest => return ({ p with item := some (repetition (!p.flags.prefersShort) item) }, rest)

end Progress

/-- What an opening parenthesis stands for. -/
inductive Opening where
  | flags (flags : Flags)
  | group (flags : Flags) (name : Option String)
deriving Repr

namespace Opening

def isName : List Char → Bool
  | [] => false
  | c :: cs => (isLetter c || c == '_') && cs.all fun c =>
    isAlphanumeric c || c == '_' || c == '.' || c == '[' || c == ']'

/-- Reads the name of a group up to its closing bracket. -/
def readName (flags : Flags) (cs : List Char) : Option (Opening × List Char) :=
  let name := cs.takeWhile (· != '>')
  match cs.dropWhile (· != '>') with
  | '>' :: rest =>
    if isName name then some (group flags (some (String.ofList name)), rest) else none
  | _ => none

/-- Reads what follows a parenthesis: the name or the flags of a group, flags alone, or nothing. -/
def read (flags : Flags) : List Char → Option (Opening × List Char)
  | '?' :: 'P' :: '<' :: rest => readName flags rest
  | '?' :: '<' :: rest => readName flags rest
  | '?' :: rest => do
    let letters := rest.takeWhile fun c => c != ':' && c != ')'
    let changed ← flags.change? letters
    match rest.drop letters.length with
    | ':' :: rest => return (group changed none, rest)
    | ')' :: rest => if letters.isEmpty then none else return (.flags changed, rest)
    | _ => none
  | rest => some (group flags none, rest)

end Opening

namespace Regex

/-- Without Unicode tables no character has another case. -/
def ofLiteral? (flags : Flags) (c : Char) : Option Regex :=
  if flags.ignoresCase && flags.isUnicode then none
  else some (.set (CharSet.folded flags (.single c)))

/-- A point: any character, or any inside a line. -/
def point? (flags : Flags) : Option Regex :=
  if !flags.isUnicode then none
  else if flags.crossesLines then some (.set (.complement .empty))
  else if flags.hasReturns then some (.set (.complement (.union (.single '\n') (.single '\r'))))
  else some (.set (.complement (.single '\n')))

def lineStart (flags : Flags) : Regex :=
  .assertion (if flags.isMultiline then .lineStart flags.hasReturns else .textStart)

def lineEnd (flags : Flags) : Regex :=
  .assertion (if flags.isMultiline then .lineEnd flags.hasReturns else .textEnd)

def ofEscape? (flags : Flags) : Escape → Option Regex
  | .literal c => ofLiteral? flags c
  | .set chars => some (.set chars)
  | .assertion test => some (.assertion test)

/-- Reads what stands for one character or for a place. -/
def readItem (flags : Flags) : List Char → Option (Regex × List Char)
  | [] => none
  | '.' :: rest => (point? flags).map fun regex => (regex, rest)
  | '^' :: rest => some (lineStart flags, rest)
  | '$' :: rest => some (lineEnd flags, rest)
  | '[' :: rest => do
    let (chars, rest) ← CharSet.readBracketed flags rest
    return (.set chars, rest)
  | '\\' :: rest => do
    let (escape, rest) ← Escape.read flags rest
    return (← ofEscape? flags escape, rest)
  | '\x7b' :: _ => none
  | c :: rest => (ofLiteral? flags c).map fun regex => (regex, rest)

/-- Reads the rest of a group up to its closing parenthesis or the end. The fuel bounds the
items. -/
def read : Nat → Progress → List Char → Option (Progress × List Char)
  | 0, _, _ => none
  | fuel + 1, p, cs => do
    match p.flags.skip cs with
    | [] => return (p, [])
    | ')' :: rest => return (p, ')' :: rest)
    | '|' :: rest => read fuel p.nextAlternative rest
    | '?' :: rest =>
      let (p, rest) ← p.repeatItem? optional rest
      read fuel p rest
    | '*' :: rest =>
      let (p, rest) ← p.repeatItem? zeroOrMore rest
      read fuel p rest
    | '+' :: rest =>
      let (p, rest) ← p.repeatItem? oneOrMore rest
      read fuel p rest
    | '(' :: rest =>
      match ← Opening.read p.flags (p.flags.skip rest) with
      | (.flags flags, rest) => read fuel (p.changeFlags flags) rest
      | (.group flags name, rest) =>
        if name.any p.names.contains then none
        match ← read fuel (.start flags (name.toList ++ p.names)) rest with
        | (inner, ')' :: rest) => read fuel ({ p with names := inner.names }.add inner.regex) rest
        | _ => none
    | cs =>
      let (item, rest) ← readItem p.flags cs
      read fuel (p.add item) rest

def parse? (cs : List Char) : Option Regex := do
  -- Every step of the reader passes a character.
  match ← read (cs.length + 1) (.start .standard []) cs with
  | (p, []) => return p.regex
  | _ => none

end Regex
end Boilerplate.Pattern
