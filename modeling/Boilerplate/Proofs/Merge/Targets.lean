import Boilerplate.Proofs.Merge.Anchoring
import Boilerplate.Proofs.Merge.Neighbours
import Boilerplate.Proofs.Merge.Outcome

/-! No planned insertion loses its anchor. When its turn comes, an anchor at a declaration finds that
very member of the class, counted as the planner counted it, and an anchor at an insertion finds what
that insertion made. So only an insertion that asks for the end of the class goes there. -/
namespace Boilerplate.Merge

/-- The slot that an anchor was planned for, in a class to which these insertions were made. -/
inductive Anchor.Target (snapshot : Snapshot) (made : List Insertion) : Anchor → Slot → Prop where
  | declared {front back : List Member} {member : Member} {occurrence : Nat} :
      snapshot.members = front ++ member :: back →
      (front.countP fun other => other.key == member.key) = occurrence →
      Target snapshot made (.afterExisting member.key occurrence) ⟨.existing, member⟩
  | inserted {index : Nat} {insertion : Insertion} : made[index]? = some insertion →
      Target snapshot made (.afterPlanned index) ⟨.planned index, insertion.toMember⟩

/-- After these instructions the anchor finds the slot that it was planned for. -/
def Anchor.FoundAfter (anchor : Anchor) (snapshot : Snapshot) (earlier : List Instruction) : Prop :=
  let reached := earlier.foldl Layout.step (Layout.ofSnapshot snapshot)
  ∃ before slot after, reached.slots = before ++ slot :: after ∧
    anchor.Target snapshot (earlier.filterMap Instruction.insertion?) slot ∧
    reached.anchorPosition? anchor = some (before.length + 1)

/-- Every anchor of a plan finds its slot at its turn, so none is lost while the plan is carried out. -/
structure AnchorsFound (snapshot : Snapshot) (plan : EditPlan) : Prop where
  found : ∀ (earlier later : List Instruction) (insertion : Insertion),
    plan.instructions = earlier ++ .insert insertion :: later → insertion.anchor ≠ .endOfClass →
    insertion.anchor.FoundAfter snapshot earlier
  noneLost : (Layout.ofSnapshot snapshot).lostAnchors plan.instructions = []

section Slots
variable {snapshot : Snapshot} {made : List Insertion} {anchor : Anchor} {slot : Slot}

theorem Anchor.Finds.target
    (split : ((Layout.ofSnapshot snapshot).insertAll made).slots = before ++ slot :: after)
    (finds : anchor.Finds before slot) : anchor.Target snapshot made slot := by
  obtain ⟨origin, member⟩ := slot
  obtain ⟨means, count⟩ := finds
  cases anchor with
  | endOfClass => cases means
  | afterExisting key occurrence =>
    simp only [Anchor.means, Bool.and_eq_true, beq_iff_eq] at means
    obtain ⟨rfl, rfl⟩ := means
    have members := Layout.oldMembers_insertAll snapshot made
    rw [split, Layout.oldMembers_split rfl] at members
    rw [countP_oldMembers] at count
    exact .declared members.symm count
  | afterPlanned index =>
    obtain rfl : origin = .planned index := by simpa [Anchor.means] using means
    have listed : ⟨.planned index, member⟩ ∈ ((Layout.ofSnapshot snapshot).insertAll made).slots := by
      rw [split]
      exact List.mem_append_right _ List.mem_cons_self
    rcases Layout.slot_cases listed with ⟨old, _⟩ | ⟨i, insertion, entry, same⟩
    · cases old
    · cases same
      exact .inserted entry

/-- An anchor in the class or at an insertion made before is found. -/
theorem Anchor.InClass.foundAfter (known : anchor.InClass snapshot) (older : anchor.OlderThan made.length)
    (placed : anchor ≠ .endOfClass) : anchor.FoundAfter snapshot (made.map Instruction.insert) := by
  obtain ⟨before, slot, after, cut, finds⟩ := Layout.resolves_insertAll known older placed
  have again : (made.map Instruction.insert).filterMap Instruction.insertion? = made := by
    simp [Instruction.insertion?, Function.comp_def]
  unfold FoundAfter
  rw [Layout.foldl_step_insert, again]
  refine ⟨before, slot, after, cut, finds.target cut, ?_⟩
  exact Layout.anchorPosition?_eq_some_iff.mpr ⟨before, slot, after, cut, finds, rfl⟩

end Slots

namespace Layout

/-- What is found at each turn is not lost in the whole run. -/
theorem lostAnchors_eq_nil {layout : Layout} {instructions : List Instruction}
    (found : ∀ (earlier later : List Instruction) (insertion : Insertion),
      instructions = earlier ++ .insert insertion :: later → insertion.anchor ≠ .endOfClass →
      ((earlier.foldl step layout).anchorPosition? insertion.anchor).isSome = true) :
    layout.lostAnchors instructions = [] := by
  induction instructions generalizing layout with
  | nil => rfl
  | cons instruction more ih =>
    have first : layout.lostAnchor? instruction = none := by
      cases instruction with
      | remove key => rfl
      | implementInterface name => rfl
      | insert insertion =>
        simp only [lostAnchor?]
        by_cases last : insertion.anchor = .endOfClass
        · rw [if_pos last]
        · have there := found [] more insertion rfl last
          rw [List.foldl_nil] at there
          rw [if_neg last, if_pos there]
    have rest : (layout.step instruction).lostAnchors more = [] := by
      apply ih
      intro earlier later insertion split placed
      exact found (instruction :: earlier) later insertion (by rw [split, List.cons_append]) placed
    rw [lostAnchors, first, rest, Option.toList_none, List.nil_append]

end Layout

section Plans
variable {snapshot : Snapshot} {insertions : List Insertion} {rest : List Instruction}

/-- A turn of one of these insertions comes after those before it only. -/
theorem earlier_of_split {earlier later : List Instruction} {insertion : Insertion}
    (split : insertions.map Instruction.insert ++ rest = earlier ++ .insert insertion :: later)
    (ends : ∀ last, .insert last ∈ rest → last.anchor = .endOfClass)
    (placed : insertion.anchor ≠ .endOfClass) :
    ∃ made behind, insertions = made ++ insertion :: behind ∧ earlier = made.map Instruction.insert := by
  rcases List.append_eq_append_iff.mp split with ⟨middle, _, same⟩ | ⟨middle, listed, same⟩
  · refine absurd (ends insertion ?_) placed
    rw [same]
    exact List.mem_append_right _ List.mem_cons_self
  · cases middle with
    | nil =>
      rw [List.nil_append] at same
      exact absurd (ends insertion (same ▸ List.mem_cons_self)) placed
    | cons first others =>
      obtain ⟨rfl, _⟩ := List.cons.inj same
      obtain ⟨made, more, rfl, rfl, tail⟩ := List.map_eq_append_iff.mp listed
      obtain ⟨own, behind, rfl, head, _⟩ := List.map_eq_cons_iff.mp tail
      obtain rfl := Instruction.insert.inj head
      exact ⟨made, behind, rfl, rfl⟩

/-- Insertions in a class, each anchored there or at an insertion before it, and then whatever needs
no anchor. -/
theorem anchorsFound_of_insertions {plan : EditPlan}
    (instructions : plan.instructions = insertions.map Instruction.insert ++ rest)
    (known : ∀ insertion ∈ insertions, insertion.anchor.InClass snapshot)
    (older : ∀ (index : Nat) (insertion : Insertion), insertions[index]? = some insertion →
      insertion.anchor.OlderThan index)
    (ends : ∀ last, .insert last ∈ rest → last.anchor = .endOfClass) :
    AnchorsFound snapshot plan := by
  have found : ∀ (earlier later : List Instruction) (insertion : Insertion),
      plan.instructions = earlier ++ .insert insertion :: later → insertion.anchor ≠ .endOfClass →
      insertion.anchor.FoundAfter snapshot earlier := by
    intro earlier later insertion split placed
    rw [instructions] at split
    obtain ⟨made, behind, rfl, rfl⟩ := earlier_of_split split ends placed
    exact (known insertion (by simp)).foundAfter (older made.length insertion (by simp)) placed
  constructor
  · exact found
  · apply Layout.lostAnchors_eq_nil
    intro earlier later insertion split placed
    obtain ⟨before, _, _, _, _, position⟩ := found earlier later insertion split placed
    rw [position]
    rfl

theorem anchor_of_mem_parcelInstructions {parcel : Parcel.Artifacts} {insertion : Insertion}
    (member : .insert insertion ∈ parcelInstructions snapshot parcel) :
    insertion.anchor = .endOfClass := by
  have inserted : insertion ∈ parcelInsertions snapshot parcel := by
    rw [← parcelInstructions_insertions]
    exact List.mem_filterMap.mpr ⟨_, member, rfl⟩
  obtain ⟨_, _, rfl⟩ := List.mem_map.mp inserted
  rfl

end Plans

/-- Neither a plan for a class nor a plan for constants, which may repeat identifiers, has an anchor
that is not there at its turn. -/
theorem anchors_never_lost (note : String) (snapshot : Snapshot) :
    (∀ set : ArtifactSet, AnchorsFound snapshot (planClass note set snapshot)) ∧
      ∀ constants : List Constant, AnchorsFound snapshot
        (.ofInsertions (planConstants note constants snapshot.declarations).insertions) := by
  constructor
  · intro set
    apply anchorsFound_of_insertions (planClass_instructions note set snapshot)
    · intro insertion member
      unfold baseInsertions at member
      cases present : set.schema with
      | none => simp [present] at member
      | some artifacts => exact schemaInsertions_inClass (by simpa only [present] using member)
    · intro index insertion entry
      unfold baseInsertions at entry
      cases present : set.schema with
      | none => simp [present] at entry
      | some artifacts => exact schemaInsertions_older (by simpa only [present] using entry)
    · intro last member
      cases present : set.parcelable with
      | none => simp [present] at member
      | some parcel => exact anchor_of_mem_parcelInstructions (by simpa only [present] using member)
  · intro constants
    apply anchorsFound_of_insertions (List.append_nil _).symm
    · intro insertion member
      exact constantInsertions_inClass (fun _ none => by cases none) member
    · intro index insertion entry
      have older := constantInsertions_older (fun _ none => by cases none) entry
      rwa [Nat.zero_add] at older
    · intro last member
      cases member

end Boilerplate.Merge
