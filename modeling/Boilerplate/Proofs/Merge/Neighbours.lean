import Boilerplate.Proofs.Merge.Planner

/-! Neighbours among the members of a class. An insertion that fits stands right behind the first
member that its anchor is at, whatever else is inserted, because no two insertions are under one key
or behind one slot. -/
namespace Boilerplate.Merge

section Adjacency
variable {test : Member → Bool} {first second : Member} {members : List Member}

/-- The first member that passes the test is `first`, and `second` is the one after it. -/
def RightBehind (test : Member → Bool) (first second : Member) (members : List Member) : Prop :=
  ∃ before after, members = before ++ first :: second :: after ∧ test first = true ∧
    ∀ other ∈ before, test other = false

theorem RightBehind.filter {keep : Member → Bool} (behind : RightBehind test first second members)
    (keepsFirst : keep first = true) (keepsSecond : keep second = true) :
    RightBehind test first second (members.filter keep) := by
  obtain ⟨before, after, rfl, passes, none⟩ := behind
  refine ⟨before.filter keep, after.filter keep, ?_, passes, fun other kept => ?_⟩
  · rw [List.filter_append, List.filter_cons_of_pos keepsFirst, List.filter_cons_of_pos keepsSecond]
  · exact none other (List.mem_filter.mp kept).1

theorem RightBehind.append (behind : RightBehind test first second members) (more : List Member) :
    RightBehind test first second (members ++ more) := by
  obtain ⟨before, after, rfl, passes, none⟩ := behind
  exact ⟨before, after ++ more, by simp, passes, none⟩

end Adjacency

section Slots
variable {snapshot : Snapshot} {insertions : List Insertion} {target slot : Slot}

/-- The slot of an insertion under a key that no other insertion has is the first such slot. -/
theorem key_ne_of_before (keys : (insertions.map Insertion.member).Nodup)
    (split : ((Layout.ofSnapshot snapshot).insertAll insertions).slots = before ++ slot :: after)
    (made : slot.origin = .planned index) :
    ∀ other ∈ before, other.origin = .existing ∨ other.member.key ≠ slot.member.key := by
  intro other early
  have listed {s : Slot} (member : s ∈ before ++ slot :: after) := Layout.slot_cases (split ▸ member)
  rcases listed (List.mem_append_left _ early) with ⟨old, _⟩ | ⟨i, first, entry, rfl⟩
  · exact .inl old
  · refine .inr fun same => ?_
    rcases listed (List.mem_append_right _ List.mem_cons_self) with
      ⟨old, _⟩ | ⟨j, second, entryToo, rfl⟩
    · rw [old] at made
      cases made
    · rw [Insertion.toMember_key, Insertion.toMember_key] at same
      have bound : i < (insertions.map Insertion.member).length := by
        rw [List.length_map]
        exact (List.getElem?_eq_some_iff.mp entry).1
      have equal : i = j := (List.getElem?_inj bound keys).mp (by simp [entry, entryToo, same])
      have unique := Layout.insertAll_unique snapshot insertions
      rw [split] at unique
      have distinct := (List.pairwise_append.mp unique).2.2 _ early _ List.mem_cons_self
      cases distinct (congrArg Origin.planned equal)

/-- An insertion behind the first member under its key comes right after it. -/
theorem rightBehind_first (fits : Fits snapshot insertions)
    (keys : (insertions.map Insertion.member).Nodup) (member : insertion ∈ insertions)
    (anchor : insertion.anchor = .afterExisting insertion.member 0) :
    ∃ first, (snapshot.members.find? fun member => member.key == insertion.member) = some first ∧
      RightBehind (fun member => member.key == insertion.member) first insertion.toMember
        (((Layout.ofSnapshot snapshot).insertAll insertions).slots.map Slot.member) := by
  obtain ⟨index, entry⟩ := List.mem_iff_getElem?.mp member
  obtain ⟨before, target, after, split, means, count⟩ :=
    Layout.follows_of_fits fits entry (by rw [anchor]; exact fun same => by cases same)
  rw [anchor] at means count
  simp only [Anchor.means, Bool.and_eq_true, beq_iff_eq] at means
  -- Occurrence zero rules out members of the class, the keys rule out other insertions.
  have none : ∀ other ∈ before, (other.member.key == insertion.member) = false := by
    intro other early
    have cut : ((Layout.ofSnapshot snapshot).insertAll insertions).slots =
        (before ++ [target]) ++ ⟨.planned index, insertion.toMember⟩ :: after := by simp [split]
    have apart := List.countP_eq_zero.mp count other early
    rcases key_ne_of_before keys cut rfl other (by simp [early]) with old | different
    · simpa [Anchor.means, old] using apart
    · rw [Insertion.toMember_key] at different
      exact beq_false_of_ne different
  have old := Layout.oldMembers_insertAll snapshot insertions
  rw [split, Layout.oldMembers_split means.1] at old
  refine ⟨target.member, ?_, before.map Slot.member, after.map Slot.member, ?_, ?_, ?_⟩
  · rw [← old, List.find?_eq_some_iff_append]
    refine ⟨by simp [means.2], _, _, rfl, fun other early => ?_⟩
    obtain ⟨slot, present, _, rfl⟩ := Layout.mem_oldMembers_iff.mp early
    simp [none slot present]
  · simp [split]
  · simp [means.2]
  · intro other early
    obtain ⟨slot, present, rfl⟩ := List.mem_map.mp early
    exact none slot present

end Slots

section Chain
variable {note : String} {snapshot : Snapshot} {insertions : List Insertion}
  {previous constant : Constant} {insertion made : Insertion} {index i : Nat}

def Inserted (insertions : List Insertion) (constant : Constant) (member : Member) : Prop :=
  member ∈ insertions.map Insertion.toMember ∧ constant.heldBy member = true

/-- The declaration that counts for a constant: the first that has its value, or the inserted one. -/
def Processed (snapshot : Snapshot) (insertions : List Insertion) (constant : Constant)
    (member : Member) : Prop :=
  match (constantDecision snapshot.declarations constant).decision with
  | .unchanged => snapshot.members.find? constant.heldBy = some member
  | _ => Inserted insertions constant member

theorem processed_of_find {member : Member}
    (found : snapshot.members.find? constant.heldBy = some member) :
    Processed snapshot insertions constant member := by
  have unchanged := constantDecision_eq_unchanged_iff.mpr
    ⟨member, List.mem_of_find?_eq_some found, List.find?_some found⟩
  rw [Processed, unchanged]
  exact found

theorem processed_of_inserted {member : Member}
    (none : ¬ ∃ member ∈ snapshot.members, constant.heldBy member = true)
    (inserted : Inserted insertions constant member) :
    Processed snapshot insertions constant member := by
  have changed := mt constantDecision_eq_unchanged_iff.mp none
  unfold Processed
  split
  · contradiction
  · exact inserted

theorem countP_oldMembers (before : List Slot) (key : MemberKey) (n : Nat) :
    before.countP (Anchor.means (.afterExisting key n)) =
      (Layout.oldMembers before).countP fun member => member.key == key := by
  rw [Layout.oldMembers, List.countP_map, List.countP_filter]
  congr
  funext slot
  simp [Anchor.means, Bool.and_comm]

theorem rightBehind_held (fits : Fits snapshot insertions) (entry : insertions[index]? = some insertion)
    (held : Verdict.of snapshot.declarations constant = .held n)
    (anchor : insertion.anchor = .afterExisting constant.key n)
    (none : ∀ other ∈ insertions, other.member ≠ constant.key) :
    ∃ first, snapshot.members.find? constant.heldBy = some first ∧
      RightBehind constant.heldBy first insertion.toMember
        (((Layout.ofSnapshot snapshot).insertAll insertions).slots.map Slot.member) := by
  obtain ⟨before, target, after, cut, means, count⟩ :=
    Layout.follows_of_fits fits entry (by rw [anchor]; exact fun same => by cases same)
  rw [anchor] at means count
  rw [countP_oldMembers] at count
  simp only [Anchor.means, Bool.and_eq_true, beq_iff_eq] at means
  obtain ⟨front, first, back, members, holds, missed, number⟩ := exists_held_split held
  have old := Layout.oldMembers_insertAll snapshot insertions
  rw [cut, Layout.oldMembers_split means.1, members] at old
  -- The anchor counts declarations, the planner looked for one: they agree on which.
  obtain ⟨same, rfl⟩ := split_unique (fun member => member.key == constant.key) old
    (by simp [means.2]) (by simp [Constant.heldBy_key holds]) (count.trans number.symm)
  refine ⟨target.member, ?_, before.map Slot.member, after.map Slot.member, by simp [cut], holds, ?_⟩
  · rw [members, List.find?_eq_some_iff_append]
    exact ⟨holds, front, back, rfl, fun other early => by simp [missed other early]⟩
  · intro other early
    obtain ⟨slot, present, rfl⟩ := List.mem_map.mp early
    rcases Layout.slot_cases (cut ▸ List.mem_append_left _ present) with
      ⟨origin, _⟩ | ⟨i, made, listed, rfl⟩
    · exact missed _ (same ▸ Layout.mem_oldMembers_iff.mpr ⟨slot, present, origin, rfl⟩)
    · refine Bool.eq_false_iff.mpr fun holdsToo => none made (List.mem_of_getElem? listed) ?_
      rw [← Insertion.toMember_key, Constant.heldBy_key holdsToo]

theorem rightBehind_inserted (fits : Fits snapshot insertions)
    (keys : (insertions.map Insertion.member).Nodup) (entry : insertions[index]? = some insertion)
    (anchor : insertion.anchor = .afterPlanned i) (earlier : insertions[i]? = some made)
    (holds : constant.heldBy made.toMember = true)
    (none : ∀ member ∈ snapshot.members, constant.heldBy member = false) :
    RightBehind constant.heldBy made.toMember insertion.toMember
      (((Layout.ofSnapshot snapshot).insertAll insertions).slots.map Slot.member) := by
  obtain ⟨before, target, after, cut, means, _⟩ :=
    Layout.follows_of_fits fits entry (by rw [anchor]; exact fun same => by cases same)
  rw [anchor] at means
  obtain ⟨member, same⟩ : ∃ member, target = ⟨.planned i, member⟩ := ⟨target.member, by
    cases target
    simpa [Anchor.means] using means⟩
  subst same
  obtain rfl : member = made.toMember := by
    rcases Layout.slot_cases (cut ▸ List.mem_append_right _ List.mem_cons_self) with
      ⟨old, _⟩ | ⟨j, other, listed, equal⟩
    · cases old
    · cases equal
      rw [earlier] at listed
      cases listed
      rfl
  refine ⟨before.map Slot.member, after.map Slot.member, by simp [cut], holds, fun other early => ?_⟩
  obtain ⟨slot, present, rfl⟩ := List.mem_map.mp early
  rcases Layout.slot_cases (cut ▸ List.mem_append_left _ present) with
    ⟨_, declared⟩ | ⟨j, later, listed, rfl⟩
  · exact none _ declared
  · refine Bool.eq_false_iff.mpr fun holdsToo => ?_
    rcases key_ne_of_before keys cut rfl _ present with old | different
    · cases old
    · exact different ((Constant.heldBy_key holdsToo).trans (Constant.heldBy_key holds).symm)

end Chain

end Boilerplate.Merge
