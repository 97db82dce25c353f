import Boilerplate.Document.Basic

/-! Writing JSON, on one line or with two blanks of indentation per level. -/
namespace Boilerplate.Json

def hexChar (n : Nat) : Char := (Nat.toDigits 16 n).getLastD '0'

def escape (c : Char) : List Char :=
  if c = '"' then ['\\', '"']
  else if c = '\\' then ['\\', '\\']
  else if c = '\x08' then ['\\', 'b']
  else if c = '\x0c' then ['\\', 'f']
  else if c = '\n' then ['\\', 'n']
  else if c = '\r' then ['\\', 'r']
  else if c = '\t' then ['\\', 't']
  else if c.toNat < 32 then ['\\', 'u', '0', '0', hexChar (c.toNat / 16), hexChar (c.toNat % 16)]
  else [c]

def quote (s : String) : String := String.ofList ('"' :: (s.toList.flatMap escape ++ ['"']))

/-- A line break and the indentation of a level. -/
def newLine (level : Nat) : String := "\n" ++ String.ofList (List.replicate (2 * level) ' ')

/-- The text of a value without parts. -/
def scalar : Document → String
  | .null => "null"
  | .bool b => if b then "true" else "false"
  | .natural n => toString n
  | .numeral text => text
  | .text s => quote s
  | _ => ""

mutual
def pretty (level : Nat) : Document → String
  | .list [] => "[]"
  | .list (first :: more) =>
    "[" ++ newLine (level + 1) ++ pretty (level + 1) first ++ prettyItems level more
  | .record [] => "\x7b\x7d"
  | .record ((key, first) :: more) =>
    "\x7b" ++ newLine (level + 1) ++ quote key ++ ": " ++ pretty (level + 1) first ++
      prettyEntries level more
  | document => scalar document

def prettyItems (level : Nat) : List Document → String
  | [] => newLine level ++ "]"
  | next :: more => "," ++ newLine (level + 1) ++ pretty (level + 1) next ++ prettyItems level more

def prettyEntries (level : Nat) : List (String × Document) → String
  | [] => newLine level ++ "\x7d"
  | (key, next) :: more =>
    "," ++ newLine (level + 1) ++ quote key ++ ": " ++ pretty (level + 1) next ++
      prettyEntries level more
end

mutual
def compact : Document → String
  | .list [] => "[]"
  | .list (first :: more) => "[" ++ compact first ++ compactItems more
  | .record [] => "\x7b\x7d"
  | .record ((key, first) :: more) =>
    "\x7b" ++ quote key ++ ":" ++ compact first ++ compactEntries more
  | document => scalar document

def compactItems : List Document → String
  | [] => "]"
  | next :: more => "," ++ compact next ++ compactItems more

def compactEntries : List (String × Document) → String
  | [] => "\x7d"
  | (key, next) :: more => "," ++ quote key ++ ":" ++ compact next ++ compactEntries more
end

end Boilerplate.Json
