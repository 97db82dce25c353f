import Boilerplate.Member.Basic

/-! Plans of edits to one class. A plan says what to insert where, what to remove and which
interfaces to add; its instructions are carried out in order. -/
namespace Boilerplate.Merge

/-- Where an insertion goes. Occurrences and indices count from zero. -/
inductive Anchor where
  | endOfClass
  /-- After one of the members that the class had under a key. -/
  | afterExisting (member : MemberKey) (occurrence : Nat)
  /-- After an earlier insertion of the same plan. -/
  | afterPlanned (index : Nat)
deriving DecidableEq, Repr

def Anchor.shown : Anchor → String
  | endOfClass => "end of class"
  | afterExisting member 0 => "after " ++ member.shown
  | afterExisting member occurrence =>
    "after " ++ member.shown ++ " (#" ++ toString (occurrence + 1) ++ ")"
  | afterPlanned index => "after insertion #" ++ toString (index + 1)

structure Insertion where
  anchor : Anchor
  member : MemberKey
  text : String
  /-- The initializer of a constant, in quotes. -/
  literal : Option String
  /-- Stands beside a declaration from which it differs. -/
  conflict : Bool
deriving DecidableEq, Repr

/-- The member that the class has afterwards. -/
def Insertion.toMember (insertion : Insertion) : Member :=
  match insertion.member with
  | .field name => .field ⟨name, insertion.literal, some insertion.text⟩
  | .method name parameters => .method ⟨name, parameters, some insertion.text⟩

inductive Decision where
  | insert
  | unchanged
  | conflicting
deriving DecidableEq, Repr

namespace Decision

/-- The name in documents. -/
def id : Decision → String
  | insert => "insert"
  | unchanged => "unchanged"
  | conflicting => "conflicting"

/-- The name shown to people. -/
def title : Decision → String
  | insert => "insert"
  | unchanged => "unchanged"
  | conflicting => "conflict"

end Decision

/-- The decision on one constant. -/
structure ConstantDecision where
  identifier : String
  decision : Decision
deriving DecidableEq, Repr

/-- The part of a plan that is about constants. -/
structure ConstantPlan where
  insertions : List Insertion
  decisions : List ConstantDecision
deriving DecidableEq, Repr

namespace ConstantPlan

def isNoop (plan : ConstantPlan) : Bool := plan.insertions.isEmpty

def conflicts (plan : ConstantPlan) : Nat := plan.insertions.countP Insertion.conflict

def count (plan : ConstantPlan) (decision : Decision) : Nat :=
  plan.decisions.countP fun entry => entry.decision == decision

end ConstantPlan

inductive Instruction where
  /-- Removes every member under the key. -/
  | remove (member : MemberKey)
  | insert (insertion : Insertion)
  | implementInterface (interface : String)
deriving DecidableEq, Repr

namespace Instruction

def insertion? : Instruction → Option Insertion
  | insert insertion => some insertion
  | _ => none

def removal? : Instruction → Option MemberKey
  | remove member => some member
  | _ => none

/-- The instruction in one line. -/
def shown : Instruction → String
  | remove member => "remove " ++ member.shown
  | insert insertion =>
    "insert " ++ insertion.member.shown ++ " (" ++ insertion.anchor.shown ++ ")" ++
      (if insertion.conflict then " [conflict]" else "")
  | implementInterface interface => "implement " ++ interface

end Instruction

structure EditPlan where
  instructions : List Instruction
  decisions : List ConstantDecision
deriving DecidableEq, Repr

namespace EditPlan

def empty : EditPlan := ⟨[], []⟩

instance : Inhabited EditPlan := ⟨empty⟩

def isNoop (plan : EditPlan) : Bool := plan.instructions.isEmpty

def insertions (plan : EditPlan) : List Insertion :=
  plan.instructions.filterMap Instruction.insertion?

def removals (plan : EditPlan) : List MemberKey :=
  plan.instructions.filterMap Instruction.removal?

def conflicts (plan : EditPlan) : Nat := plan.insertions.countP Insertion.conflict

/-- One line per instruction. -/
def text (plan : EditPlan) : String :=
  if plan.isNoop then "no changes\n"
  else String.join (plan.instructions.map fun instruction => instruction.shown ++ "\n")

/-- The plan that only makes these insertions. -/
def ofInsertions (insertions : List Insertion) : EditPlan := ⟨insertions.map .insert, []⟩

end EditPlan
end Boilerplate.Merge
