/-! Documents as trees, whatever notation they are written in, and how structures are read from
them. A structure is a record of its columns, or the list of their values in order. A tagged
structure says in one column which kind it is. -/
namespace Boilerplate

inductive Document where
  | null
  | bool (b : Bool)
  | natural (n : Nat)
  /-- A number with a sign, a fraction or an exponent. -/
  | numeral (text : String)
  | text (s : String)
  /-- What can be passed over but not taken in: a quoted text that stands for no characters, as half
  a surrogate pair does, a number beyond all floating-point numbers, or a list or record too
  deep. -/
  | garbled
  | list (items : List Document)
  | record (entries : List (String × Document))
deriving Repr, Inhabited

namespace Document

def asText? : Document → Option String
  | text s => some s
  | _ => none

def asBool? : Document → Option Bool
  | bool b => some b
  | _ => none

/-- Counts and places are below 2^64. -/
def asIndex? : Document → Option Nat
  | natural n => if n < Nat.pow 2 64 then some n else none
  | _ => none

def asList? {α : Type} (read : Document → Option α) : Document → Option (List α)
  | list items => items.mapM read
  | _ => none

def asTexts? : Document → Option (List String) := asList? asText?

/-- Null stands for a value that is not there. -/
def asOption? {α : Type} (read : Document → Option α) : Document → Option (Option α)
  | null => some none
  | document => some <$> read document

/-- A name of an enumeration, alone or as the only key of a record without a value. -/
def asName? : Document → Option String
  | text name => some name
  | record [(name, null)] => some name
  | _ => none

/-- A column that has to be there. -/
def required {α : Type} (read : Document → Option α) (column : Option Document) : Option α :=
  column.bind read

/-- A column that may be left out. -/
def optional {α : Type} (fallback : α) (read : Document → Option α) : Option Document → Option α
  | some document => read document
  | none => some fallback

/-- The value under a key that may be missing but not repeated. -/
def valueOf? (entries : List (String × Document)) (key : String) : Option (Option Document) :=
  match entries.filter fun entry => entry.1 == key with
  | [] => some none
  | [entry] => some (some entry.2)
  | _ => none

/-- The values of a structure's columns. Other keys of a record are passed over, but a list must not
go on after the last column. -/
def columns? (keys : List String) : Document → Option (List (Option Document))
  | record entries => keys.mapM (valueOf? entries)
  | list items =>
    if items.length ≤ keys.length then
      some (items.map some ++ List.replicate (keys.length - items.length) none)
    else none
  | _ => none

mutual
/-- Nothing in the document is garbled. -/
def isReadable : Document → Bool
  | garbled => false
  | list items => areReadable items
  | record entries => haveReadableValues entries
  | _ => true

def areReadable : List Document → Bool
  | [] => true
  | first :: more => first.isReadable && areReadable more

def haveReadableValues : List (String × Document) → Bool
  | [] => true
  | (_, first) :: more => first.isReadable && haveReadableValues more
end

/-- The tag of a tagged structure and the rest of it. -/
def tagged? (tag : String) : Document → Option (Document × Document)
  | record entries =>
    match entries.filter fun entry => entry.1 == tag with
    | [entry] => some (entry.2, record (entries.filter fun entry => entry.1 != tag))
    | _ => none
  | list (first :: more) => some (first, list more)
  | _ => none

/-- Which of the kinds a tagged structure is, and the rest of it. Inside another tagged structure
the kind may be given by its place in the list of kinds. -/
def variant? (tag : String) (kinds : List String) (isInner : Bool) (document : Document) :
    Option (String × Document) := do
  let (kind, content) ← document.tagged? tag
  if !content.isReadable then none
  else match kind with
    | text name => if kinds.contains name then some (name, content) else none
    | natural place => if isInner then kinds[place]?.map fun name => (name, content) else none
    | _ => none

def ofTexts (texts : List String) : Document := list (texts.map text)

/-- The entry of a value that may be missing. -/
def entryOf {α : Type} (key : String) (write : α → Document) : Option α →
    List (String × Document)
  | some value => [(key, write value)]
  | none => []

end Document
end Boilerplate
