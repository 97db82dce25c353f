import Boilerplate.JavaType.Basic
import Boilerplate.Text.Blank
import Boilerplate.Text.Bytes
import Boilerplate.Text.Letter

/-! Reading a type. Blanks may stand around every part; a wildcard is read as its bound, or as
`Object` when it has none. -/
namespace Boilerplate.JavaType
open Text

/-- Why a text is not a type. -/
inductive Fault where
  /-- A name was due where this is left of the text. -/
  | missingName (remaining : List Char)
  | malformedName (name : String)
  | unterminatedArguments
  | trailing (remaining : List Char)
deriving DecidableEq, Repr

structure Malformed where
  text : String
  fault : Fault
deriving DecidableEq, Repr

/-- The fault in words. Offsets count bytes of the text. -/
def Fault.describe (text : String) : Fault → String
  | missingName remaining =>
    "expected a type name at offset " ++ toString (byteOffset text.toList remaining)
  | malformedName name => "malformed qualified name '" ++ name ++ "'"
  | unterminatedArguments => "unterminated type argument list"
  | trailing remaining => "unexpected trailing input '" ++ String.ofList remaining ++ "'"

def Malformed.reason (error : Malformed) : String := error.fault.describe error.text

def Malformed.message (error : Malformed) : String :=
  "invalid type name '" ++ error.text ++ "': " ++ error.reason

def isNameCharacter (c : Char) : Bool :=
  isAlphanumeric c || c == '_' || c == '$' || c == '.'

def hasDoubledDot : List Char → Bool
  | '.' :: '.' :: _ => true
  | _ :: cs => hasDoubledDot cs
  | [] => false

/-- No part between the dots is empty. -/
def isWellDotted (cs : List Char) : Bool :=
  cs.head? != some '.' && cs.getLast? != some '.' && !hasDoubledDot cs

/-- What follows a keyword, when a blank ends it. -/
def afterKeyword? (keyword : String) (cs : List Char) : Option (List Char) :=
  match keyword.toList.isPrefixOf? cs with
  | some (c :: rest) => if isBlank c then some (c :: rest) else none
  | _ => none

/-- The text of a wildcard's bound. -/
def bound? (cs : List Char) : Option (List Char) :=
  afterKeyword? "extends" cs <|> afterKeyword? "super" cs

/-- The number of empty brackets ahead, and what follows them and the blanks around them. -/
def takeBrackets : List Char → Nat × List Char
  | '[' :: ']' :: rest => ((takeBrackets rest).1 + 1, (takeBrackets rest).2)
  | c :: rest => if isBlank c then takeBrackets rest else (0, c :: rest)
  | [] => (0, [])

mutual
/-- Reads a type at the front of the text. The fuel bounds the nesting. -/
def readType : Nat → List Char → Except Fault (JavaType × List Char)
  | 0, cs => .error (.missingName cs)
  | fuel + 1, cs =>
    match skipBlanks cs with
    | '?' :: rest =>
      match bound? (skipBlanks rest) with
      | some bound => readType fuel bound
      | none => .ok (object, skipBlanks rest)
    | cs =>
      let name := cs.takeWhile isNameCharacter
      if name.isEmpty then .error (.missingName cs)
      else if !isWellDotted name then .error (.malformedName (String.ofList name))
      else
        let base := qualify (String.ofList name)
        match skipBlanks (cs.dropWhile isNameCharacter) with
        | '<' :: rest => do
          let (arguments, rest) ← readArguments fuel rest
          return (⟨base, arguments, (takeBrackets rest).1⟩, (takeBrackets rest).2)
        | rest => .ok (⟨base, [], (takeBrackets rest).1⟩, (takeBrackets rest).2)

/-- Reads type arguments up to the closing bracket. -/
def readArguments : Nat → List Char → Except Fault (List JavaType × List Char)
  | 0, cs => .error (.missingName cs)
  | fuel + 1, cs => do
    let (first, rest) ← readType fuel cs
    match skipBlanks rest with
    | ',' :: rest =>
      let (more, rest) ← readArguments fuel rest
      return (first :: more, rest)
    | '>' :: rest => return ([first], rest)
    | _ => .error .unterminatedArguments
end

def readAll (cs : List Char) : Except Fault JavaType := do
  -- Every second step of the reader passes a character.
  let (type, rest) ← readType (2 * cs.length + 2) cs
  match skipBlanks rest with
  | [] => return type
  | rest => .error (.trailing rest)

def parse (text : String) : Except Malformed JavaType :=
  (readAll text.toList).mapError fun fault => ⟨text, fault⟩

end Boilerplate.JavaType
