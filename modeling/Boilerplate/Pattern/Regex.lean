import Boilerplate.Pattern.CharSet

/-! Regular expressions. Of the ways in which one matches at a place, the order of its alternatives
and the greed of its repetitions say which is preferred. -/
namespace Boilerplate.Pattern

/-- A place in a text: the characters on both sides of it. -/
structure Place where
  before : Option Char
  after : Option Char
deriving DecidableEq, Repr

/-- What is asked of a place. Where lines may end in a return too, a return with a line feed after
it is one end. -/
inductive Assertion where
  | textStart
  | textEnd
  | lineStart (hasReturns : Bool)
  | lineEnd (hasReturns : Bool)
  | wordBoundary
  | noWordBoundary
  | wordStart
  | wordEnd
deriving DecidableEq, Repr

namespace Assertion

def isWord (c : Option Char) : Bool := c.any fun c => c.isAlphanum || c == '_'

def holds : Assertion → Place → Bool
  | textStart, place => place.before.isNone
  | textEnd, place => place.after.isNone
  | lineStart false, place => place.before.all (· == '\n')
  | lineEnd false, place => place.after.all (· == '\n')
  | lineStart true, place => match place.before with
    | none | some '\n' => true
    | some c => c == '\r' && place.after != some '\n'
  | lineEnd true, place => match place.after with
    | none | some '\r' => true
    | some c => c == '\n' && place.before != some '\r'
  | wordBoundary, place => isWord place.before != isWord place.after
  | noWordBoundary, place => isWord place.before == isWord place.after
  | wordStart, place => !isWord place.before && isWord place.after
  | wordEnd, place => isWord place.before && !isWord place.after

end Assertion

inductive Regex where
  | empty
  | set (set : CharSet)
  | assertion (assertion : Assertion)
  | seq (first second : Regex)
  | either (preferred other : Regex)
  | oneOrMore (isGreedy : Bool) (body : Regex)
  /-- The rest of a repetition after its body was met: any number of times more. -/
  | more (isGreedy : Bool) (body : Regex)
deriving DecidableEq, Repr

namespace Regex

/-- Once or not at all. -/
def optional (isGreedy : Bool) (body : Regex) : Regex :=
  if isGreedy then either body empty else either empty body

def zeroOrMore (isGreedy : Bool) (body : Regex) : Regex :=
  optional isGreedy (oneOrMore isGreedy body)

/-- In sequence. -/
def andThen : Regex → Regex → Regex
  | empty, second => second
  | first, second => seq first second

end Regex
end Boilerplate.Pattern
