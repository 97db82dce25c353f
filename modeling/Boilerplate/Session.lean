import Boilerplate.Toolchain

/-! A session on one class: the host changes the class, the members it has and the settings, and
plans and applies edits in between. An operation that fails leaves the session as it was. -/
namespace Boilerplate
open Merge

structure Session where
  toolchain : Toolchain
  dataClass : DataClass
  snapshot : Snapshot
  lastPlan : EditPlan

namespace Session

def initial : Session := ⟨.standard, ⟨"Person", [], false⟩, .empty, .empty⟩

def addField (s : Session) (field : Field) : Session :=
  { s with dataClass := { s.dataClass with fields := s.dataClass.fields ++ [field] } }

def setExistingConstructor (s : Session) (existing : Bool) : Session :=
  { s with dataClass := { s.dataClass with hasExistingConstructor := existing } }

def addMember (s : Session) (member : Member) : Session :=
  { s with snapshot := { s.snapshot with members := s.snapshot.members ++ [member] } }

def addInterface (s : Session) (interface : String) : Session :=
  { s with snapshot := { s.snapshot with interfaces := s.snapshot.interfaces ++ [interface] } }

/-- Makes a plan without carrying it out. -/
def plan (s : Session) (kind : ArtifactKind) : Except GenerateError Session := do
  let outcome ← s.toolchain.plan s.dataClass s.snapshot kind
  return { s with lastPlan := outcome.plan }

/-- Makes a plan and carries it out. -/
def merge (s : Session) (kind : ArtifactKind) : Except GenerateError Session := do
  let outcome ← s.toolchain.plan s.dataClass s.snapshot kind
  return { s with lastPlan := outcome.plan, snapshot := outcome.merged }

/-- Carries out the last plan, even if the class has changed since. -/
def applyLast (s : Session) : Session := { s with snapshot := apply s.snapshot s.lastPlan }

/-- Carries out a plan that was not made here. -/
def perform (s : Session) (plan : EditPlan) : Session :=
  { s with lastPlan := plan, snapshot := apply s.snapshot plan }

def constantPlan (s : Session) (constants : List Constant) : ConstantPlan :=
  planConstants s.toolchain.note constants s.snapshot.declarations

/-- Carries out the plan for constants. -/
def mergeConstants (s : Session) (constants : List Constant) : Session :=
  s.perform (.ofInsertions (s.constantPlan constants).insertions)

/-- What the host may ask for. -/
inductive Operation where
  | setToolchain (toolchain : Toolchain)
  | setClass (c : DataClass)
  | addField (field : Field)
  | setExistingConstructor (existing : Bool)
  | setSnapshot (snapshot : Snapshot)
  | addMember (member : Member)
  | addInterface (interface : String)
  | plan (kind : ArtifactKind)
  | merge (kind : ArtifactKind)
  | applyLast
  | perform (plan : EditPlan)
  | mergeConstants (constants : List Constant)

def operate (s : Session) : Operation → Except GenerateError Session
  | .setToolchain toolchain => .ok { s with toolchain }
  | .setClass c => .ok { s with dataClass := c }
  | .addField field => .ok (s.addField field)
  | .setExistingConstructor existing => .ok (s.setExistingConstructor existing)
  | .setSnapshot snapshot => .ok { s with snapshot }
  | .addMember member => .ok (s.addMember member)
  | .addInterface interface => .ok (s.addInterface interface)
  | .plan kind => s.plan kind
  | .merge kind => s.merge kind
  | .applyLast => .ok s.applyLast
  | .perform plan => .ok (s.perform plan)
  | .mergeConstants constants => .ok (s.mergeConstants constants)

/-- The session after an operation, whether it succeeds or not. -/
def after (s : Session) (operation : Operation) : Session :=
  match s.operate operation with
  | .ok next => next
  | .error _ => s

def run (s : Session) (operations : List Operation) : Session := operations.foldl after s

end Session
end Boilerplate
