import Boilerplate.Pattern.Regex

/-! The search for an expression in a text. It starts at every place in turn, and all ways to match
go through the text side by side, the preferred ones first. An earlier start is preferred to a later
one, and a way that is done ends those after it. -/
namespace Boilerplate.Pattern

/-- What is still to be met, in order. -/
abbrev Remainder := List Regex

/-- All ways to match at one place of a text. -/
structure Frontier where
  /-- The remainders that were met here. The first way to one of them is the preferred one. -/
  entered : List Remainder
  /-- The ways that wait for a character, with what remains after it. -/
  waiting : List (CharSet × Remainder)
  /-- Nothing remains of the last way. -/
  isDone : Bool
deriving Repr

namespace Frontier

def empty : Frontier := ⟨[], [], false⟩

/-- Goes on from a remainder, unless a preferred way is done or was there before. -/
def enter (remainder : Remainder) (next : Frontier → Frontier) (frontier : Frontier) : Frontier :=
  if frontier.isDone || frontier.entered.contains remainder then frontier
  else next { frontier with entered := remainder :: frontier.entered }

/-- Follows an expression without passing a character, and goes on where nothing of it remains. A
repetition comes back to itself, which was then entered before, so that nothing is to be done. -/
def follow (place : Place) : Regex → Remainder → (Frontier → Frontier) → Frontier → Frontier
  | .empty, rest, next => enter (.empty :: rest) next
  | .set set, rest, _ => enter (.set set :: rest) fun frontier =>
    { frontier with waiting := frontier.waiting ++ [(set, rest)] }
  | .assertion assertion, rest, next => enter (.assertion assertion :: rest) fun frontier =>
    if assertion.holds place then next frontier else frontier
  | .seq first second, rest, next => enter (.seq first second :: rest)
    (follow place first (second :: rest) (follow place second rest next))
  | .either preferred other, rest, next => enter (.either preferred other :: rest) fun frontier =>
    follow place other rest next (follow place preferred rest next frontier)
  | .oneOrMore isGreedy body, rest, next => enter (.oneOrMore isGreedy body :: rest)
    (follow place body (.more isGreedy body :: rest) (enter (.more isGreedy body :: rest) next))
  | .more isGreedy body, rest, next => enter (.more isGreedy body :: rest) fun frontier =>
    let again := follow place body (.more isGreedy body :: rest) id
    if isGreedy then next (again frontier) else again (next frontier)

def followAll (place : Place) : Remainder → Frontier → Frontier
  | [] => fun frontier => { frontier with isDone := true }
  | regex :: rest => follow place regex rest (followAll place rest)

/-- The ways from a place, given what remains there. -/
def ofRemainders (place : Place) (remainders : List Remainder) : Frontier :=
  remainders.foldl (fun frontier remainder => followAll place remainder frontier) empty

/-- What remains after a character. -/
def pass (frontier : Frontier) (c : Char) : List Remainder :=
  (frontier.waiting.filter fun way => way.1.contains c).map Prod.snd

end Frontier

namespace Regex

/-- Whether the preferred match ends with the text. The expression starts anew at every place until
a match is done. -/
def searchFrom (regex : Regex) : Bool → Option Char → List Remainder → List Char → Bool
  | _, before, remainders, [] => (Frontier.ofRemainders ⟨before, none⟩ remainders).isDone
  | isStarting, before, remainders, c :: cs =>
    let frontier := Frontier.ofRemainders ⟨before, some c⟩ remainders
    let isStarting := isStarting && !frontier.isDone
    searchFrom regex isStarting (some c)
      (frontier.pass c ++ if isStarting then [[regex]] else []) cs

/-- The preferred match in a text ends where the text does. -/
def matchesToEnd (regex : Regex) (text : String) : Bool :=
  searchFrom regex true none [[regex]] text.toList

end Regex
end Boilerplate.Pattern
