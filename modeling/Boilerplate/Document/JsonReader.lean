import Boilerplate.Document.Basic
import Boilerplate.Text.Hexadecimal

/-! Reading JSON. The whole text must be one value; blanks are the four of the format, numbers have
no leading zeros, and quoted text holds no control characters. What is well formed but cannot be
represented is garbled. -/
namespace Boilerplate.Json

def isSpace (c : Char) : Bool := c == ' ' || c == '\n' || c == '\t' || c == '\r'

def skipSpace (cs : List Char) : List Char := cs.dropWhile isSpace

/-- A piece of quoted text: a character, or a UTF-16 unit given by its number. -/
inductive Piece where
  | char (c : Char)
  | unit (n : Nat)
deriving DecidableEq, Repr

def shortEscape? : Char → Option Char
  | '"' => some '"'
  | '\\' => some '\\'
  | '/' => some '/'
  | 'b' => some '\x08'
  | 'f' => some '\x0c'
  | 'n' => some '\n'
  | 'r' => some '\r'
  | 't' => some '\t'
  | _ => none

/-- The pieces of quoted text up to the closing quote, and what follows it. -/
def readPieces : List Char → Option (List Piece × List Char)
  | [] => none
  | '"' :: rest => some ([], rest)
  | '\\' :: 'u' :: a :: b :: c :: d :: rest => do
    let unit ← Text.Hexadecimal.number? [a, b, c, d]
    let (pieces, rest) ← readPieces rest
    return (.unit unit :: pieces, rest)
  | '\\' :: c :: rest => do
    let escaped ← shortEscape? c
    let (pieces, rest) ← readPieces rest
    return (.char escaped :: pieces, rest)
  | c :: rest =>
    if c.toNat < 32 then none
    else do
      let (pieces, rest) ← readPieces rest
      return (.char c :: pieces, rest)

def isHighSurrogate (n : Nat) : Bool := 0xd800 ≤ n && n ≤ 0xdbff
def isLowSurrogate (n : Nat) : Bool := 0xdc00 ≤ n && n ≤ 0xdfff

/-- The characters of the pieces. The halves of a pair must stand together. -/
def joinPieces : List Piece → Option (List Char)
  | [] => some []
  | .char c :: rest => (joinPieces rest).map (c :: ·)
  | .unit high :: .unit low :: rest =>
    if isHighSurrogate high && isLowSurrogate low then
      (joinPieces rest).map
        (Char.ofNat (0x10000 + (high - 0xd800) * 0x400 + (low - 0xdc00)) :: ·)
    else if isHighSurrogate high || isLowSurrogate high then none
    else (joinPieces (.unit low :: rest)).map (Char.ofNat high :: ·)
  | .unit n :: rest =>
    if isHighSurrogate n || isLowSurrogate n then none
    else (joinPieces rest).map (Char.ofNat n :: ·)

def textOf (pieces : List Piece) : Document :=
  match joinPieces pieces with
  | some cs => .text (String.ofList cs)
  | none => .garbled

def digitsValue (digits : List Char) : Nat :=
  digits.foldl (fun n c => 10 * n + (c.toNat - '0'.toNat)) 0

/-- Digits with a mark before them, where the mark stands ahead. -/
def readMarkedDigits (isMark : Char → Bool) (maySign : Bool) :
    List Char → Option (List Char × List Char)
  | [] => some ([], [])
  | c :: rest =>
    if !isMark c then some ([], c :: rest)
    else
      let (sign, rest) := match rest with
        | s :: more => if maySign && (s == '+' || s == '-') then ([s], more) else ([], rest)
        | [] => ([], [])
      let digits := rest.takeWhile Char.isDigit
      if digits.isEmpty then none
      else some (c :: (sign ++ digits), rest.dropWhile Char.isDigit)

/-- The exponent that is written after its mark. -/
def exponentValue : List Char → Int
  | _ :: '-' :: digits => -digitsValue digits
  | _ :: '+' :: digits => digitsValue digits
  | _ :: digits => digitsValue digits
  | [] => 0

/-- The least number that rounds to infinity in double precision: half a step beyond the largest. -/
def doubleBound : Nat := Nat.pow 2 1024 - Nat.pow 2 970

/-- Whether digits with a decimal exponent are a number below the bound. The number of digits alone
decides unless it is close. -/
def isDouble (digits : List Char) (exponent : Int) : Bool :=
  let significant := digits.dropWhile (· == '0')
  let magnitude := significant.length + exponent
  if significant.isEmpty || magnitude < 309 then true
  else if 309 < magnitude then false
  else digitsValue significant * Nat.pow 10 exponent.toNat <
    doubleBound * Nat.pow 10 (-exponent).toNat

def readNumber (cs : List Char) : Option (Document × List Char) := do
  let (sign, cs) := match cs with
    | '-' :: rest => (['-'], rest)
    | cs => ([], cs)
  let digits := cs.takeWhile Char.isDigit
  if digits.isEmpty || (digits.head? == some '0' && digits.length > 1) then none
  else
    let (fraction, rest) ← readMarkedDigits (· == '.') false (cs.dropWhile Char.isDigit)
    let (exponent, rest) ← readMarkedDigits (fun c => c == 'e' || c == 'E') true rest
    let places := fraction.drop 1
    if !isDouble (digits ++ places) (exponentValue exponent - places.length) then
      return (.garbled, rest)
    else if sign.isEmpty && fraction.isEmpty && exponent.isEmpty then
      return (.natural (digitsValue digits), rest)
    else return (.numeral (String.ofList (sign ++ digits ++ fraction ++ exponent)), rest)

/-- Lists and records stand at most this deep in one another. -/
def maxDepth : Nat := 127

/-- A list or record, if there is room for one more level. -/
def nested (depth : Nat) (document : Document) : Document :=
  if depth < maxDepth then document else .garbled

/-- A record, unless a key is garbled. -/
def recordOf (entries : List (Document × Document)) : Document :=
  match entries.mapM fun entry => entry.1.asText?.map fun key => (key, entry.2) with
  | some entries => .record entries
  | none => .garbled

mutual
/-- Reads a value at the front of the text, at a depth. The fuel bounds the nesting. -/
def readValue : Nat → Nat → List Char → Option (Document × List Char)
  | 0, _, _ => none
  | fuel + 1, depth, cs =>
    match skipSpace cs with
    | 'n' :: 'u' :: 'l' :: 'l' :: rest => some (.null, rest)
    | 't' :: 'r' :: 'u' :: 'e' :: rest => some (.bool true, rest)
    | 'f' :: 'a' :: 'l' :: 's' :: 'e' :: rest => some (.bool false, rest)
    | '"' :: rest => (readPieces rest).map fun (pieces, rest) => (textOf pieces, rest)
    | '[' :: rest =>
      match skipSpace rest with
      | ']' :: rest => some (nested depth (.list []), rest)
      | rest => (readItems fuel (depth + 1) rest).map fun (items, rest) =>
        (nested depth (.list items), rest)
    | '\x7b' :: rest =>
      match skipSpace rest with
      | '\x7d' :: rest => some (nested depth (.record []), rest)
      | rest => (readEntries fuel (depth + 1) rest).map fun (entries, rest) =>
        (nested depth (recordOf entries), rest)
    | cs => readNumber cs

/-- Reads the items of a list up to the closing bracket. -/
def readItems : Nat → Nat → List Char → Option (List Document × List Char)
  | 0, _, _ => none
  | fuel + 1, depth, cs => do
    let (first, rest) ← readValue fuel depth cs
    match skipSpace rest with
    | ',' :: rest =>
      let (more, rest) ← readItems fuel depth rest
      return (first :: more, rest)
    | ']' :: rest => return ([first], rest)
    | _ => none

/-- Reads the entries of a record up to the closing brace. -/
def readEntries : Nat → Nat → List Char → Option (List (Document × Document) × List Char)
  | 0, _, _ => none
  | fuel + 1, depth, cs =>
    match skipSpace cs with
    | '"' :: rest => do
      let (pieces, rest) ← readPieces rest
      match skipSpace rest with
      | ':' :: rest =>
        let (value, rest) ← readValue fuel depth rest
        let entry := (textOf pieces, value)
        match skipSpace rest with
        | ',' :: rest =>
          let (more, rest) ← readEntries fuel depth rest
          return (entry :: more, rest)
        | '\x7d' :: rest => return ([entry], rest)
        | _ => none
      | _ => none
    | _ => none
end

def read? (text : String) : Option Document :=
  let cs := text.toList
  -- Every second step of the reader passes a character.
  match readValue (2 * cs.length + 2) 0 cs with
  | some (document, rest) => if (skipSpace rest).isEmpty then some document else none
  | none => none

end Boilerplate.Json
