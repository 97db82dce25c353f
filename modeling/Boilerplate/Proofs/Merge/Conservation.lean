import Boilerplate.Proofs.Merge.Insertions

/-! What any plan does to any class, whoever made the plan and wherever its anchors point: members that
it does not remove stay, in order, each insertion that it does not remove again adds one member, and
nothing else is there afterwards. -/
namespace Boilerplate
namespace Merge

def Instruction.interface? : Instruction → Option String
  | implementInterface interface => some interface
  | _ => none

section Members
variable {layout : Layout} {instruction : Instruction} {instructions later : List Instruction}

/-- The members whose key none of these instructions removes. -/
def lasting (instructions : List Instruction) (members : List Member) : List Member :=
  members.filter fun member => !(instructions.filterMap Instruction.removal?).contains member.key

/-- The members that insertions add and no later instruction removes. -/
def contributed : List Instruction → List Member
  | [] => []
  | .insert insertion :: later => lasting later [insertion.toMember] ++ contributed later
  | .remove _ :: later => contributed later
  | .implementInterface _ :: later => contributed later

theorem lasting_nil (members : List Member) : lasting [] members = members :=
  List.filter_eq_self.mpr fun _ _ => rfl

theorem lasting_of_no_removal (none : instruction.removal? = none) (members : List Member) :
    lasting (instruction :: later) members = lasting later members := by
  rw [lasting, List.filterMap_cons_none none]
  rfl

theorem lasting_remove (key : MemberKey) (members : List Member) :
    lasting (.remove key :: later) members =
      lasting later (members.filter fun member => member.key != key) := by
  rw [lasting, lasting, List.filter_filter, List.filterMap_cons_some (by rfl)]
  refine List.filter_congr fun member _ => ?_
  rw [List.contains_cons, Bool.not_or, Bool.and_comm]
  rfl

/-- What one instruction does to all members, as far as they outlast the instructions after it. -/
theorem step_perm (layout : Layout) (instruction : Instruction) (later : List Instruction) :
    (lasting later (layout.step instruction).toSnapshot.members ++ contributed later).Perm
      (lasting (instruction :: later) layout.toSnapshot.members ++
        contributed (instruction :: later)) := by
  cases instruction with
  | remove key =>
    rw [lasting_remove]
    simp only [Layout.step, Layout.remove, Layout.toSnapshot, contributed, List.filter_map]
    exact .refl _
  | insert insertion =>
    have added := (layout.insert_perm insertion).map Slot.member
    have front : (layout.newSlot insertion :: layout.slots).map Slot.member =
        [insertion.toMember] ++ layout.slots.map Slot.member := rfl
    have kept := (front ▸ added).trans List.perm_append_comm
    rw [lasting_of_no_removal rfl, contributed, ← List.append_assoc]
    refine List.Perm.append_right _ ?_
    rw [lasting, lasting, lasting, ← List.filter_append]
    exact kept.filter _
  | implementInterface interface =>
    have same : (layout.implement interface).slots = layout.slots := by
      unfold Layout.implement
      split <;> rfl
    rw [lasting_of_no_removal rfl, contributed]
    simp only [Layout.step, Layout.toSnapshot, same]
    exact .refl _

theorem run_perm (layout : Layout) (instructions : List Instruction) :
    (instructions.foldl Layout.step layout).toSnapshot.members.Perm
      (lasting instructions layout.toSnapshot.members ++ contributed instructions) := by
  induction instructions generalizing layout with
  | nil => rw [lasting_nil, contributed, List.append_nil]; exact .refl _
  | cons instruction later ih => exact (ih (layout.step instruction)).trans (step_perm ..)

/-- What one instruction does to the members that the class had before. -/
theorem step_oldMembers (layout : Layout) (instruction : Instruction) (later : List Instruction) :
    lasting later (Layout.oldMembers (layout.step instruction).slots) =
      lasting (instruction :: later) (Layout.oldMembers layout.slots) := by
  cases instruction with
  | remove key =>
    rw [lasting_remove]
    simp only [Layout.step, Layout.remove, Layout.oldMembers, List.filter_map, List.filter_filter]
    refine congrArg (fun slots => lasting later (List.map Slot.member slots)) ?_
    exact List.filter_congr fun slot _ => Bool.and_comm ..
  | insert insertion =>
    rw [lasting_of_no_removal rfl, Layout.oldMembers, Layout.step, Layout.insert_filter rfl]
    rfl
  | implementInterface interface =>
    rw [lasting_of_no_removal rfl, Layout.step, Layout.implement]
    split <;> rfl

theorem run_oldMembers (layout : Layout) (instructions : List Instruction) :
    Layout.oldMembers (instructions.foldl Layout.step layout).slots =
      lasting instructions (Layout.oldMembers layout.slots) := by
  induction instructions generalizing layout with
  | nil => exact (lasting_nil _).symm
  | cons instruction later ih => exact (ih (layout.step instruction)).trans (step_oldMembers ..)

end Members

section Interfaces

/-- The names that are not known yet, each where it comes first. -/
def newNames (known names : List String) : List String :=
  (names.filter fun name => !known.contains name).eraseDups

theorem newNames_cons_of_known {known : List String} (there : known.contains name = true) :
    newNames known (name :: names) = newNames known names := by
  rw [newNames, List.filter_cons_of_neg (by simpa using there)]
  rfl

theorem newNames_cons_of_new {known : List String} (absent : known.contains name = false) :
    newNames known (name :: names) = name :: newNames (known ++ [name]) names := by
  rw [newNames, List.filter_cons_of_pos (by simpa using absent), List.eraseDups_cons, newNames,
    List.filter_filter]
  refine congrArg (fun rest => name :: rest.eraseDups) (List.filter_congr fun other _ => ?_)
  simp [Bool.and_comm, Bool.beq_eq_decide_eq]

theorem run_interfaces (layout : Layout) (instructions : List Instruction) :
    (instructions.foldl Layout.step layout).interfaces =
      layout.interfaces ++
        newNames layout.interfaces (instructions.filterMap Instruction.interface?) := by
  induction instructions generalizing layout with
  | nil => simp [newNames]
  | cons instruction later ih =>
    rw [List.foldl_cons, ih]
    cases instruction with
    | remove key => rfl
    | insert insertion => rfl
    | implementInterface interface =>
      rw [List.filterMap_cons_some (by rfl)]
      cases there : layout.interfaces.contains interface with
      | true =>
        have same : (layout.step (.implementInterface interface)).interfaces = layout.interfaces := by
          rw [Layout.step, Layout.implement, if_pos there]
        rw [same, newNames_cons_of_known there]
      | false =>
        have added : (layout.step (.implementInterface interface)).interfaces =
            layout.interfaces ++ [interface] := by
          rw [Layout.step, Layout.implement, if_neg (by simpa using there)]
        rw [added, newNames_cons_of_new there, List.append_assoc]
        rfl

end Interfaces

/-- A class after a plan: the members that the plan lets stand, in order, among them one member for
each insertion that stands, and the interfaces with those that were asked for. -/
theorem apply_conserves (snapshot : Snapshot) (plan : EditPlan) :
    (lasting plan.instructions snapshot.members).Sublist (apply snapshot plan).members ∧
      (apply snapshot plan).members.Perm
        (lasting plan.instructions snapshot.members ++ contributed plan.instructions) ∧
      (apply snapshot plan).interfaces = snapshot.interfaces ++ newNames snapshot.interfaces
        (plan.instructions.filterMap Instruction.interface?) := by
  have start : (Layout.ofSnapshot snapshot).toSnapshot.members = snapshot.members := by
    simp [Layout.ofSnapshot, Layout.toSnapshot, Function.comp_def]
  have old : Layout.oldMembers (Layout.ofSnapshot snapshot).slots = snapshot.members := by
    simp [Layout.oldMembers, Layout.ofSnapshot, List.filter_map, Function.comp_def]
  refine ⟨?_, ?_, run_interfaces _ _⟩
  · have kept := run_oldMembers (Layout.ofSnapshot snapshot) plan.instructions
    rw [old] at kept
    rw [← kept]
    exact List.filter_sublist.map Slot.member
  · have all := run_perm (Layout.ofSnapshot snapshot) plan.instructions
    rwa [start] at all

end Merge
end Boilerplate
