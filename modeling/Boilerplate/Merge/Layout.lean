import Boilerplate.Log.Event
import Boilerplate.Merge.Plan

/-! Carrying out a plan. Members keep a mark of where they came from, so that an anchor finds the
member it was made for however many insertions came before. An insertion whose anchor is not there
goes to the end of the class. -/
namespace Boilerplate.Merge
open Log

inductive Origin where
  | existing
  /-- The insertion of that index. -/
  | planned (index : Nat)
deriving DecidableEq, Repr

structure Slot where
  origin : Origin
  member : Member
deriving DecidableEq, Repr

/-- A class in the course of a plan. -/
structure Layout where
  slots : List Slot
  interfaces : List String
  /-- How many insertions were made. -/
  planned : Nat
deriving DecidableEq, Repr

/-- The place of the member with that many earlier ones that satisfy the test. -/
def nthIdx? {α : Type} (test : α → Bool) : Nat → List α → Option Nat
  | _, [] => none
  | n, a :: as =>
    if test a then
      match n with
      | 0 => some 0
      | n + 1 => (nthIdx? test n as).map (· + 1)
    else (nthIdx? test n as).map (· + 1)

namespace Layout

def ofSnapshot (snapshot : Snapshot) : Layout :=
  ⟨snapshot.members.map (⟨.existing, ·⟩), snapshot.interfaces, 0⟩

def toSnapshot (layout : Layout) : Snapshot := ⟨layout.slots.map Slot.member, layout.interfaces⟩

/-- The place just behind the member that an anchor means. -/
def anchorPosition? (layout : Layout) : Anchor → Option Nat
  | .endOfClass => none
  | .afterExisting key occurrence =>
    (nthIdx? (fun slot => slot.origin == .existing && slot.member.key == key) occurrence
      layout.slots).map (· + 1)
  | .afterPlanned index =>
    (layout.slots.findIdx? fun slot => slot.origin == .planned index).map (· + 1)

def insert (layout : Layout) (insertion : Insertion) : Layout :=
  let position := (layout.anchorPosition? insertion.anchor).getD layout.slots.length
  { layout with
    slots := layout.slots.insertIdx position ⟨.planned layout.planned, insertion.toMember⟩
    planned := layout.planned + 1 }

def remove (layout : Layout) (key : MemberKey) : Layout :=
  { layout with slots := layout.slots.filter fun slot => slot.member.key != key }

def implement (layout : Layout) (interface : String) : Layout :=
  if layout.interfaces.contains interface then layout
  else { layout with interfaces := layout.interfaces ++ [interface] }

def step (layout : Layout) : Instruction → Layout
  | .remove member => layout.remove member
  | .insert insertion => layout.insert insertion
  | .implementInterface interface => layout.implement interface

/-- The anchor of an instruction, when it names a member that is not there. -/
def lostAnchor? (layout : Layout) : Instruction → Option Anchor
  | .insert insertion =>
    if insertion.anchor = .endOfClass then none
    else if (layout.anchorPosition? insertion.anchor).isSome then none
    else some insertion.anchor
  | _ => none

/-- The anchors that are not there when their turn comes. -/
def lostAnchors : Layout → List Instruction → List Anchor
  | _, [] => []
  | layout, instruction :: more =>
    (layout.lostAnchor? instruction).toList ++ lostAnchors (layout.step instruction) more

end Layout

/-- The class after a plan. -/
def apply (snapshot : Snapshot) (plan : EditPlan) : Snapshot :=
  (plan.instructions.foldl Layout.step (Layout.ofSnapshot snapshot)).toSnapshot

def applyEvents (snapshot : Snapshot) (plan : EditPlan) : List Event :=
  ((Layout.ofSnapshot snapshot).lostAnchors plan.instructions).map fun anchor =>
    ⟨.debug, .planApplication, "anchor not found; appending", [("anchor", .plain anchor.shown)]⟩

end Boilerplate.Merge
