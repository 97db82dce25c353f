import Boilerplate.Log.Span
import Boilerplate.Log.Threshold
import Boilerplate.Pattern.Parser
import Boilerplate.Pattern.Search
import Boilerplate.Text.Blank
import Boilerplate.Text.Bytes
import Boilerplate.Text.Letter

/-! A directive of a log: a threshold, and what it holds for. That is the beginning of an address, a
span by its name, and a field by its name or its value. -/
namespace Boilerplate.Log
open Text

/-- What is asked of the value of a field. -/
inductive ValueTest where
  /-- To be a number or a truth value. A text is neither. -/
  | scalar
  /-- To be a text that ends where the preferred match of a pattern does. -/
  | pattern (text : String) (regex : Pattern.Regex)
deriving DecidableEq, Repr

structure FieldTest where
  name : String
  value : Option ValueTest
deriving DecidableEq, Repr

structure Directive where
  address : Option String
  span : Option String
  field : Option FieldTest
  threshold : Threshold
deriving DecidableEq, Repr

namespace ValueTest

/-- Digits with a point and an exponent, of which the digits are needed. -/
def isDecimal (cs : List Char) : Bool :=
  let whole := cs.takeWhile Char.isDigit
  let rest := cs.drop whole.length
  let fraction := if rest.head? == some '.' then (rest.drop 1).takeWhile Char.isDigit else []
  let exponent := if rest.head? == some '.' then rest.drop (fraction.length + 1) else rest
  !(whole ++ fraction).isEmpty && match exponent with
    | [] => true
    | e :: digits =>
      let digits := if digits.head? == some '+' || digits.head? == some '-' then digits.drop 1
        else digits
      (e == 'e' || e == 'E') && !digits.isEmpty && digits.all Char.isDigit

/-- Words for what no digits can write, in any case. -/
def isNumberWord (cs : List Char) : Bool :=
  ["inf", "infinity", "nan"].contains (String.ofList (cs.map Char.toLower))

def isNumber (cs : List Char) : Bool :=
  let cs := if cs.head? == some '+' || cs.head? == some '-' then cs.drop 1 else cs
  isDecimal cs || isNumberWord cs

def parse? (text : String) : Option ValueTest :=
  if text == "true" || text == "false" || isNumber text.toList then some scalar
  else (Pattern.Regex.parse? text.toList).map (pattern text)

def accepts (test : ValueTest) (value : String) : Bool :=
  match test with
  | scalar => false
  | pattern _ regex => regex.matchesToEnd value

end ValueTest

/-- A name, or a name and a value with an equals sign between. A second sign ends the value. -/
def FieldTest.parse? (text : String) : Option FieldTest :=
  match (text.toList.splitOn '=').map String.ofList with
  | name :: value :: _ => (ValueTest.parse? value).map fun test => ⟨name, some test⟩
  | parts => some ⟨String.join parts, none⟩

namespace Directive

def isAddressStart (c : Char) : Bool := isAlphanumeric c || c == '-' || c == ':' || c == '_'

/-- A threshold by itself. -/
def always (threshold : Threshold) : Directive := ⟨none, none, none, threshold⟩

/-- The text of a directive. Its marks are those of its body, which has no blanks around it; its
parts are cut from the text itself, at the same bytes. -/
structure Written where
  text : List Char
  body : List Char

namespace Written

/-- The part between what is left of the body at its start and at its end. -/
def part? (w : Written) (start stop : List Char) : Option String :=
  (between? (byteOffset w.body start) (byteOffset w.body stop) w.text).map String.ofList

/-- The threshold that goes from there to the end of the text. Left out, it is the most detailed. -/
def threshold? (w : Written) (start : List Char) : Option Threshold := do
  let (_, rest) ← splitAtByte? (byteOffset w.body start) w.text
  if rest.isEmpty then some (.upTo .trace) else Threshold.parse? (String.ofList rest)

/-- What follows the closing bracket of a span: a threshold or nothing. -/
def thresholdAfter? (w : Written) : List Char → Option Threshold
  | [] => some (.upTo .trace)
  | '=' :: rest => w.threshold? rest
  | _ => none

/-- Reads the field in braces and what follows it. -/
def readField? (w : Written) (address span : Option String) (cs : List Char) :
    Option Directive := do
  let after := cs.dropWhile (· != '\x7d')
  let field ← w.part? cs after
  match after with
  | '\x7d' :: ']' :: rest =>
    if field.isEmpty then none
    return ⟨address, span, some (← FieldTest.parse? field), ← w.thresholdAfter? rest⟩
  | _ => none

/-- Reads the part in brackets and what follows it. Before a field the name of the span may be left
out. -/
def readSpan? (w : Written) (address : Option String) (cs : List Char) : Option Directive := do
  let after := cs.dropWhile fun c => c != ']' && c != '\x7b'
  let name ← w.part? cs after
  match after with
  | ']' :: rest => return ⟨address, some name, none, ← w.thresholdAfter? rest⟩
  | '\x7b' :: rest => w.readField? address (if name.isEmpty then none else some name) rest
  | _ => none

end Written

/-- A text without marks is a threshold or else an address. -/
def ofWord (text : String) : Directive :=
  match Threshold.parse? text with
  | some threshold => always threshold
  | none => ⟨some text, none, none, .upTo .trace⟩

/-- A directive is an address, a part in brackets, or both, and a threshold after an equals sign. -/
def parse? (text : String) : Option Directive := do
  let w : Written := ⟨text.toList, trimBlanks text.toList⟩
  match w.body with
  | [] => none
  | '[' :: rest => w.readSpan? none rest
  | first :: _ =>
    if !isAddressStart first then none
    let after := w.body.dropWhile fun c => c != '=' && c != '['
    match after with
    | '=' :: rest => return ⟨← w.part? w.body after, none, none, ← w.threshold? rest⟩
    | '[' :: rest => w.readSpan? (← w.part? w.body after) rest
    | _ => return ofWord text

/-- A directive without address fits every source. -/
def fits (directive : Directive) (source : Source) : Bool :=
  directive.address.all fun address => address.toList.isPrefixOf source.address.toList

def asksValue (directive : Directive) : Bool :=
  directive.field.any fun field => field.value.isSome

/-- A general directive decides on events by themselves. -/
def isGeneral (directive : Directive) : Bool := directive.span.isNone && !directive.asksValue

/-- A contextual directive decides on events by the span around them. One that names a field alone
is general too. -/
def isContextual (directive : Directive) : Bool :=
  directive.span.isSome || directive.field.isSome

def coversEvent (directive : Directive) (event : Event) : Bool :=
  directive.fits event.source && directive.field.all fun field =>
    field.name == Event.messageName || (event.fields.map Prod.fst).contains field.name

def coversSpan (directive : Directive) (span : Span) : Bool :=
  directive.fits Span.source && directive.span.all (· == span.name) &&
    directive.field.all fun field => field.name == Span.fieldName

/-- The value of the span's field, where one is asked for, is as asked. -/
def acceptsValue (directive : Directive) (span : Span) : Bool :=
  (directive.field.bind FieldTest.value).all fun test => test.accepts span.className

/-- Longer addresses count for more, and any for more than none. -/
def weight (directive : Directive) : Nat :=
  match directive.address with
  | none => 0
  | some address => address.utf8ByteSize + 1

/-- By weight, then without a field before with one, then by the names of the fields. -/
def isOutrankedBy (directive other : Directive) : Bool :=
  directive.weight < other.weight || directive.weight == other.weight &&
    match directive.field, other.field with
    | none, _ => true
    | some _, none => false
    | some field, some otherField => field.name ≤ otherField.name

/-- Equal up to the threshold. -/
def sameTarget (directive other : Directive) : Bool :=
  directive.address == other.address && directive.span == other.span &&
    directive.field == other.field

end Directive
end Boilerplate.Log
