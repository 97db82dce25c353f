import Boilerplate.Document.Basic
import Boilerplate.Text.Hexadecimal

/-! Reading TOML, as far as a configuration goes: values are texts, lists and tables, and a text
with any other value or with an array of tables is not read. Tables may be opened by headers, by
dotted keys or in line, and each only in one way. -/
namespace Boilerplate.Toml
open Text

def isSpace (c : Char) : Bool := c == ' ' || c == '\t'

def skipSpace (cs : List Char) : List Char := cs.dropWhile isSpace

def isControl (c : Char) : Bool := (c.toNat < 32 && c != '\t') || c.toNat == 127

/-- What follows a line break. -/
def afterLineBreak? : List Char → Option (List Char)
  | '\n' :: rest => some rest
  | '\r' :: '\n' :: rest => some rest
  | _ => none

/-- What follows the comment that ends a line, if there is one. -/
def skipComment? : List Char → Option (List Char)
  | '#' :: rest =>
    let comment := rest.takeWhile fun c => c != '\n'
    -- A carriage return may only be part of the line break.
    let body := if comment.getLast? == some '\r' && comment.length < rest.length then
      comment.dropLast else comment
    if body.any isControl then none else some (rest.drop body.length)
  | cs => some cs

/-- What follows the end of a line, with a comment or without. -/
def endLine? (cs : List Char) : Option (List Char) := do
  match ← skipComment? (skipSpace cs) with
  | [] => some []
  | cs => afterLineBreak? cs

/-- Skips blanks, line breaks and comments. -/
def skipLines? : Nat → List Char → Option (List Char)
  | 0, cs => some cs
  | fuel + 1, cs => do
    let cs ← skipComment? (skipSpace cs)
    match afterLineBreak? cs with
    | some rest => skipLines? fuel rest
    | none => some cs

def shortEscape? : Char → Option Char
  | 'b' => some '\x08'
  | 't' => some '\t'
  | 'n' => some '\n'
  | 'f' => some '\x0c'
  | 'r' => some '\r'
  | 'e' => some '\x1b'
  | '"' => some '"'
  | '\\' => some '\\'
  | _ => none

/-- A character and what was read after it. -/
def prepend (c : Char) (read : Option (List Char × List Char)) :
    Option (List Char × List Char) :=
  read.map fun (cs, rest) => (c :: cs, rest)

/-- Reads text in double quotes up to the closing quote. -/
def readBasic : List Char → Option (List Char × List Char)
  | [] => none
  | '"' :: rest => some ([], rest)
  | '\\' :: 'x' :: a :: b :: rest => do
    prepend (← Hexadecimal.character? [a, b]) (readBasic rest)
  | '\\' :: 'u' :: a :: b :: c :: d :: rest => do
    prepend (← Hexadecimal.character? [a, b, c, d]) (readBasic rest)
  | '\\' :: 'U' :: a :: b :: c :: d :: e :: f :: g :: h :: rest => do
    prepend (← Hexadecimal.character? [a, b, c, d, e, f, g, h]) (readBasic rest)
  | '\\' :: c :: rest => do prepend (← shortEscape? c) (readBasic rest)
  | c :: rest => if isControl c then none else prepend c (readBasic rest)

/-- A line break is the next thing that is no blank. -/
def endsLine (cs : List Char) : Bool := (afterLineBreak? (skipSpace cs)).isSome

/-- Reads text in three double quotes up to the closing quotes, before which one or two more may
stand. A backslash at the end of a line skips to the next character that is not blank. -/
def readLongBasic : Bool → List Char → Option (List Char × List Char)
  | _, [] => none
  | _, '"' :: '"' :: '"' :: '"' :: '"' :: rest => some (['"', '"'], rest)
  | _, '"' :: '"' :: '"' :: '"' :: rest => some (['"'], rest)
  | _, '"' :: '"' :: '"' :: rest => some ([], rest)
  | _, '\\' :: 'x' :: a :: b :: rest => do
    prepend (← Hexadecimal.character? [a, b]) (readLongBasic false rest)
  | _, '\\' :: 'u' :: a :: b :: c :: d :: rest => do
    prepend (← Hexadecimal.character? [a, b, c, d]) (readLongBasic false rest)
  | _, '\\' :: 'U' :: a :: b :: c :: d :: e :: f :: g :: h :: rest => do
    prepend (← Hexadecimal.character? [a, b, c, d, e, f, g, h]) (readLongBasic false rest)
  | _, '\\' :: c :: rest =>
    if endsLine (c :: rest) then readLongBasic true (c :: rest)
    else do prepend (← shortEscape? c) (readLongBasic false rest)
  | isSkipping, '\r' :: '\n' :: rest =>
    if isSkipping then readLongBasic true rest
    else prepend '\r' (prepend '\n' (readLongBasic false rest))
  | isSkipping, c :: rest =>
    if isSkipping && (isSpace c || c == '\n') then readLongBasic true rest
    else if isControl c && c != '\n' then none
    else prepend c (readLongBasic false rest)

/-- Reads text in single quotes up to the closing quote. -/
def readLiteral : List Char → Option (List Char × List Char)
  | [] => none
  | '\'' :: rest => some ([], rest)
  | c :: rest => if isControl c then none else prepend c (readLiteral rest)

/-- Reads text in three single quotes up to the closing quotes, before which one or two more may
stand. -/
def readLongLiteral : List Char → Option (List Char × List Char)
  | [] => none
  | '\'' :: '\'' :: '\'' :: '\'' :: '\'' :: rest => some (['\'', '\''], rest)
  | '\'' :: '\'' :: '\'' :: '\'' :: rest => some (['\''], rest)
  | '\'' :: '\'' :: '\'' :: rest => some ([], rest)
  | '\r' :: '\n' :: rest => prepend '\r' (prepend '\n' (readLongLiteral rest))
  | c :: rest => if isControl c && c != '\n' then none else prepend c (readLongLiteral rest)

/-- A line break right behind the opening quotes does not count. -/
def dropFirstBreak (cs : List Char) : List Char := (afterLineBreak? cs).getD cs

def isBareKeyCharacter (c : Char) : Bool := c.isAlphanum || c == '_' || c == '-'

def readKeyPart (cs : List Char) : Option (String × List Char) :=
  match cs with
  | '"' :: rest => (readBasic rest).map fun (cs, rest) => (String.ofList cs, rest)
  | '\'' :: rest => (readLiteral rest).map fun (cs, rest) => (String.ofList cs, rest)
  | cs =>
    let name := cs.takeWhile isBareKeyCharacter
    if name.isEmpty then none
    else some (String.ofList name, cs.dropWhile isBareKeyCharacter)

/-- Reads the parts of a dotted key and the blanks after it. -/
def readKey : Nat → List Char → Option (List String × List Char)
  | 0, _ => none
  | fuel + 1, cs => do
    let (first, rest) ← readKeyPart (skipSpace cs)
    match skipSpace rest with
    | '.' :: rest =>
      let (more, rest) ← readKey fuel rest
      return (first :: more, rest)
    | rest => return ([first], rest)

/-- How a table came to be. -/
inductive Opening where
  /-- By the header of a table inside it. -/
  | implied
  | header
  | dotted
deriving DecidableEq, Repr

inductive Node where
  | value (document : Document)
  | table (opening : Opening) (entries : List (String × Node))

mutual
def Node.toDocument : Node → Document
  | .value document => document
  | .table _ entries => .record (entryDocuments entries)

def entryDocuments : List (String × Node) → List (String × Document)
  | [] => []
  | (key, node) :: more => (key, node.toDocument) :: entryDocuments more
end

abbrev Entries := List (String × Node)

/-- Changes what is under a key, or adds it at the end. -/
def Entries.alter (entries : Entries) (key : String) (change : Option Node → Option Node) :
    Option Entries :=
  match entries with
  | [] => (change none).map fun node => [(key, node)]
  | (name, node) :: more =>
    if name == key then (change (some node)).map fun node => (name, node) :: more
    else (Entries.alter more key change).map fun more => (name, node) :: more

/-- Sets a dotted key. The tables on its way must not have been opened by a header. -/
def Entries.set (value : Document) : List String → Entries → Option Entries
  | [], _ => none
  | [key], entries => entries.alter key fun
    | none => some (.value value)
    | some _ => none
  | key :: path, entries => entries.alter key fun
    | none => (Entries.set value path []).map (.table .dotted)
    | some (.table opening inner) =>
      if opening = .header then none else (Entries.set value path inner).map (.table opening)
    | some (.value _) => none

/-- Opens the table of a header. It must be new, or only implied so far. -/
def Entries.openTable : List String → Entries → Option Entries
  | [], _ => none
  | [key], entries => entries.alter key fun
    | none => some (.table .header [])
    | some (.table .implied inner) => some (.table .header inner)
    | some _ => none
  | key :: path, entries => entries.alter key fun
    | none => (Entries.openTable path []).map (.table .implied)
    | some (.table opening inner) => (Entries.openTable path inner).map (.table opening)
    | some (.value _) => none

/-- Sets a dotted key in the open table at a path. -/
def Entries.setAt (key : List String) (value : Document) : List String → Entries → Option Entries
  | [], entries => entries.set value key
  | step :: path, entries => entries.alter step fun
    | some (.table opening inner) => (Entries.setAt key value path inner).map (.table opening)
    | _ => none

mutual
/-- Reads a value at the front of the text. The fuel bounds the nesting. -/
def readValue : Nat → List Char → Option (Document × List Char)
  | 0, _ => none
  | fuel + 1, cs =>
    match cs with
    | '"' :: '"' :: '"' :: rest =>
      (readLongBasic false (dropFirstBreak rest)).map fun (cs, rest) =>
        (.text (String.ofList cs), rest)
    | '"' :: rest => (readBasic rest).map fun (cs, rest) => (.text (String.ofList cs), rest)
    | '\'' :: '\'' :: '\'' :: rest =>
      (readLongLiteral (dropFirstBreak rest)).map fun (cs, rest) =>
        (.text (String.ofList cs), rest)
    | '\'' :: rest => (readLiteral rest).map fun (cs, rest) => (.text (String.ofList cs), rest)
    | '[' :: rest => (readItems fuel rest).map fun (items, rest) => (.list items, rest)
    | '\x7b' :: rest =>
      (readInline fuel [] rest).map fun (entries, rest) => (.record (entryDocuments entries), rest)
    | _ => none

/-- Reads the items of a list up to the closing bracket. A comma may follow the last. -/
def readItems : Nat → List Char → Option (List Document × List Char)
  | 0, _ => none
  | fuel + 1, cs => do
    match ← skipLines? cs.length cs with
    | ']' :: rest => return ([], rest)
    | cs =>
      let (first, rest) ← readValue fuel cs
      match ← skipLines? rest.length rest with
      | ',' :: rest =>
        let (more, rest) ← readItems fuel rest
        return (first :: more, rest)
      | ']' :: rest => return ([first], rest)
      | _ => none

/-- Reads the entries of a table in line up to the closing brace. A comma may follow the last. -/
def readInline : Nat → Entries → List Char → Option (Entries × List Char)
  | 0, _, _ => none
  | fuel + 1, entries, cs => do
    match ← skipLines? cs.length cs with
    | '\x7d' :: rest => return (entries, rest)
    | cs =>
      let (key, rest) ← readKey cs.length cs
      let '=' :: rest := rest | none
      let (value, rest) ← readValue fuel (skipSpace rest)
      let entries ← entries.set value key
      match ← skipLines? rest.length rest with
      | ',' :: rest => readInline fuel entries rest
      | '\x7d' :: rest => return (entries, rest)
      | _ => none
end

/-- Reads lines into the table that was opened last, at a path. -/
def readLines : Nat → List String → Entries → List Char → Option Entries
  | 0, _, _, _ => none
  | fuel + 1, path, entries, cs => do
    match ← skipLines? cs.length cs with
    | [] => return entries
    | '[' :: rest =>
      let (header, rest) ← readKey rest.length rest
      let ']' :: rest := rest | none
      readLines fuel header (← entries.openTable header) (← endLine? rest)
    | cs =>
      let (key, rest) ← readKey cs.length cs
      let '=' :: rest := rest | none
      let (value, rest) ← readValue (2 * rest.length + 2) (skipSpace rest)
      readLines fuel path (← entries.setAt key value path) (← endLine? rest)

def read? (text : String) : Option Document :=
  let cs := match text.toList with
    | '\ufeff' :: rest => rest
    | cs => cs
  (readLines (cs.length + 1) [] [] cs).map fun entries => .record (entryDocuments entries)

end Boilerplate.Toml
