import Boilerplate.Proofs.Merge.Anchor

/-! Making a list of insertions. Every slot there was stays, in order, and each insertion adds one
slot. When the anchors differ and each is there in its turn, each insertion ends up right behind
what its anchor means. -/
namespace Boilerplate.Merge

theorem Insertion.toMember_key (insertion : Insertion) : insertion.toMember.key = insertion.member := by
  cases h : insertion.member <;> simp [Insertion.toMember, h, Member.key]

theorem exists_split_of_getElem? {α : Type} {as : List α} {a : α} {i : Nat} (entry : as[i]? = some a) :
    ∃ before after, as = before ++ a :: after ∧ before.length = i := by
  obtain ⟨bound, rfl⟩ := List.getElem?_eq_some_iff.mp entry
  refine ⟨as.take i, as.drop (i + 1), ?_, List.length_take_of_le (Nat.le_of_lt bound)⟩
  rw [List.getElem_cons_drop, List.take_append_drop]

theorem exists_split_of_consecutive {α : Type} {as : List α} {a b : α} {i : Nat}
    (first : as[i]? = some a) (second : as[i + 1]? = some b) :
    ∃ before after, as = before ++ a :: b :: after := by
  obtain ⟨before, rest, rfl, rfl⟩ := exists_split_of_getElem? first
  cases rest with
  | nil => simp at second
  | cons next after =>
    obtain rfl : next = b := by simpa using second
    exact ⟨before, after, rfl⟩

def plannedSlots (first : Nat) (insertions : List Insertion) : List Slot :=
  (insertions.zipIdx first).map fun entry => ⟨.planned entry.2, entry.1.toMember⟩

theorem plannedSlots_cons : plannedSlots first (insertion :: more) =
    ⟨.planned first, insertion.toMember⟩ :: plannedSlots (first + 1) more := rfl

theorem mem_plannedSlots_iff {slot : Slot} : slot ∈ plannedSlots first insertions ↔
    ∃ index insertion, insertions[index]? = some insertion ∧
      slot = ⟨.planned (first + index), insertion.toMember⟩ := by
  simp only [plannedSlots, List.mem_map, Prod.exists, List.mk_mem_zipIdx_iff_le_and_getElem?_sub]
  constructor
  · rintro ⟨insertion, place, ⟨bound, entry⟩, rfl⟩
    exact ⟨place - first, insertion, entry, by rw [Nat.add_sub_cancel' bound]⟩
  · rintro ⟨index, insertion, entry, rfl⟩
    exact ⟨insertion, first + index, ⟨Nat.le_add_right _ _, by simpa using entry⟩, rfl⟩

theorem plannedSlots_distinct (first : Nat) (insertions : List Insertion) :
    (plannedSlots first insertions).Pairwise fun one other => one.origin ≠ other.origin := by
  induction insertions generalizing first with
  | nil => exact .nil
  | cons insertion more ih =>
    refine List.pairwise_cons.mpr ⟨fun slot later same => ?_, ih (first + 1)⟩
    obtain ⟨index, _, _, rfl⟩ := mem_plannedSlots_iff.mp later
    have equal : first = first + 1 + index := Origin.planned.inj same
    omega

theorem plannedSlots_members (first : Nat) (insertions : List Insertion) :
    (plannedSlots first insertions).map Slot.member = insertions.map Insertion.toMember := by
  induction insertions generalizing first with
  | nil => rfl
  | cons insertion more ih => simp [plannedSlots_cons, ih]

/-- The anchor does not mean an insertion yet to come when so many were made. -/
def Anchor.OlderThan (anchor : Anchor) (count : Nat) : Prop :=
  ∀ index, anchor = .afterPlanned index → index < count

theorem Anchor.OlderThan.mono {anchor : Anchor} (older : anchor.OlderThan count)
    (grows : count ≤ next) : anchor.OlderThan next :=
  fun index same => Nat.lt_of_lt_of_le (older index same) grows

theorem Anchor.OlderThan.not_means {anchor : Anchor} (older : anchor.OlderThan count)
    (member : Member) : anchor.means ⟨.planned count, member⟩ = false := by
  cases anchor with
  | endOfClass => rfl
  | afterExisting key occurrence => rfl
  | afterPlanned index =>
    have bound := older index rfl
    simp only [means, beq_eq_false_iff_ne, ne_eq, Origin.planned.injEq]
    omega

namespace Layout

variable {layout : Layout} {insertion : Insertion} {anchor : Anchor} {slot : Slot}

theorem insert_perm (layout : Layout) (insertion : Insertion) :
    (layout.insert insertion).slots.Perm (layout.newSlot insertion :: layout.slots) := by
  rcases layout.insert_cases insertion with ⟨before, target, after, split, _, made⟩ | made
  · have moved : (before ++ [target] ++ layout.newSlot insertion :: after).Perm
        (layout.newSlot insertion :: (before ++ [target] ++ after)) := List.perm_middle
    simpa only [made, split, List.append_assoc, List.singleton_append] using moved
  · rw [made]
    exact List.perm_append_comm

/-- What an insertion leaves alone: slots other than its own stay in order. -/
theorem insert_filter {keep : Slot → Bool} (skips : keep (layout.newSlot insertion) = false) :
    (layout.insert insertion).slots.filter keep = layout.slots.filter keep := by
  rcases layout.insert_cases insertion with ⟨before, target, after, split, _, made⟩ | made
  · simp [made, split, List.filter_cons, skips]
  · simp [made, skips]

def insertAll (layout : Layout) (insertions : List Insertion) : Layout :=
  insertions.foldl insert layout

theorem insertAll_append : layout.insertAll (earlier ++ later) =
    (layout.insertAll earlier).insertAll later := List.foldl_append

theorem foldl_step_insert (layout : Layout) (insertions : List Insertion) :
    (insertions.map Instruction.insert).foldl step layout = layout.insertAll insertions := by
  rw [List.foldl_map]
  rfl

theorem insertAll_planned (layout : Layout) (insertions : List Insertion) :
    (layout.insertAll insertions).planned = layout.planned + insertions.length := by
  induction insertions generalizing layout with
  | nil => rfl
  | cons insertion more ih =>
    change ((layout.insert insertion).insertAll more).planned = _
    rw [ih]
    simp only [insert, List.length_cons]
    omega

theorem insertAll_interfaces (layout : Layout) (insertions : List Insertion) :
    (layout.insertAll insertions).interfaces = layout.interfaces := by
  induction insertions generalizing layout with
  | nil => rfl
  | cons insertion more ih => exact ih (layout.insert insertion)

theorem insertAll_perm (layout : Layout) (insertions : List Insertion) :
    (layout.insertAll insertions).slots.Perm
      (layout.slots ++ plannedSlots layout.planned insertions) := by
  induction insertions generalizing layout with
  | nil => simp [insertAll, plannedSlots]
  | cons insertion more ih =>
    have rest := ih (layout.insert insertion)
    have first := (layout.insert_perm insertion).append_right (plannedSlots (layout.planned + 1) more)
    exact rest.trans (first.trans (by simpa [plannedSlots_cons, newSlot] using List.perm_middle.symm))

theorem insertAll_filter {keep : Slot → Bool}
    (skips : ∀ index insertion, insertions[index]? = some insertion →
      keep ⟨.planned (layout.planned + index), insertion.toMember⟩ = false) :
    (layout.insertAll insertions).slots.filter keep = layout.slots.filter keep := by
  induction insertions generalizing layout with
  | nil => rfl
  | cons insertion more ih =>
    have first : keep (layout.newSlot insertion) = false := skips 0 insertion rfl
    rw [← insert_filter first]
    refine ih fun index later entry => ?_
    have skipped := skips (index + 1) later entry
    rwa [show layout.planned + (index + 1) = (layout.insert insertion).planned + index by
      simp only [insert]; omega] at skipped

def Follows (layout : Layout) (anchor : Anchor) (slot : Slot) : Prop :=
  ∃ before target after, layout.slots = before ++ target :: slot :: after ∧
    anchor.Finds before target

theorem follows_insert_self (resolves : layout.Resolves insertion.anchor) :
    (layout.insert insertion).Follows insertion.anchor (layout.newSlot insertion) := by
  obtain ⟨before, target, after, split, found⟩ := resolves
  exact ⟨before, target, after, insert_of_finds split found, found⟩

/-- An insertion behind another anchor does not come between. -/
theorem follows_insert (follows : layout.Follows anchor slot)
    (differs : insertion.anchor ≠ anchor)
    (older : anchor.means (layout.newSlot insertion) = false) :
    (layout.insert insertion).Follows anchor slot := by
  obtain ⟨before, target, after, split, found⟩ := follows
  unfold Follows
  rcases layout.insert_cases insertion with ⟨front, meant, back, cut, finds, made⟩ | made
  · -- The new slot comes behind `meant`, which is not `target`.
    rw [made]
    rw [split] at cut
    rcases List.append_eq_append_iff.mp cut with ⟨middle, rfl, rest⟩ | ⟨middle, rfl, rest⟩
    · cases middle with
      | nil =>
        obtain ⟨rfl, rfl⟩ := List.cons.inj rest
        exact absurd (finds.unique (by simpa using found)) differs
      | cons first middle =>
        obtain ⟨rfl, behind⟩ := List.cons.inj rest
        cases middle with
        | nil =>
          obtain ⟨rfl, rfl⟩ := List.cons.inj behind
          exact ⟨before, target, layout.newSlot insertion :: after, by simp, found⟩
        | cons second middle =>
          obtain ⟨rfl, rfl⟩ := List.cons.inj behind
          exact ⟨before, target, middle ++ meant :: layout.newSlot insertion :: back, by simp, found⟩
    · cases middle with
      | nil =>
        obtain ⟨rfl, rfl⟩ := List.cons.inj rest
        exact absurd (finds.unique (by simpa using found)) differs
      | cons first middle =>
        obtain ⟨rfl, rfl⟩ := List.cons.inj rest
        refine ⟨front ++ meant :: layout.newSlot insertion :: middle, target, after, by simp,
          found.1, ?_⟩
        have count := found.2
        simp only [List.countP_append, List.countP_cons] at count ⊢
        simpa [older] using count
  · exact ⟨before, target, after ++ [layout.newSlot insertion], by simp [made, split], found⟩

theorem follows_insertAll (follows : layout.Follows anchor slot)
    (differs : ∀ insertion ∈ insertions, insertion.anchor ≠ anchor)
    (older : anchor.OlderThan layout.planned) :
    (layout.insertAll insertions).Follows anchor slot := by
  induction insertions generalizing layout with
  | nil => exact follows
  | cons insertion more ih =>
    have kept := follows_insert follows (differs insertion List.mem_cons_self)
      (older.not_means insertion.toMember)
    exact ih kept (fun later member => differs later (List.mem_cons_of_mem _ member))
      (older.mono (Nat.le_succ _))

/-- The members among the slots that the class had before. -/
def oldMembers (slots : List Slot) : List Member :=
  (slots.filter fun slot => slot.origin == .existing).map Slot.member

theorem oldMembers_insertAll (snapshot : Snapshot) (insertions : List Insertion) :
    oldMembers ((ofSnapshot snapshot).insertAll insertions).slots = snapshot.members := by
  have start : ((ofSnapshot snapshot).slots.filter fun slot => slot.origin == .existing) =
      (ofSnapshot snapshot).slots := by
    refine List.filter_eq_self.mpr fun slot member => ?_
    obtain ⟨_, _, rfl⟩ := List.mem_map.mp member
    rfl
  rw [oldMembers, insertAll_filter fun _ _ _ => rfl, start, ofSnapshot, List.map_map]
  exact List.map_id _

theorem oldMembers_split (old : target.origin = .existing) :
    oldMembers (before ++ target :: after) = oldMembers before ++ target.member :: oldMembers after := by
  simp [oldMembers, List.filter_append, old]

theorem mem_oldMembers_iff {before : List Slot} {member : Member} : member ∈ oldMembers before ↔
    ∃ slot ∈ before, slot.origin = .existing ∧ slot.member = member := by
  simp [oldMembers, and_assoc]

/-- A first insertion at the end stays behind all that the class had. -/
theorem insertAll_head (snapshot : Snapshot) (rest : List Insertion)
    (last : insertion.anchor = .endOfClass) : ∃ before after,
      ((ofSnapshot snapshot).insertAll (insertion :: rest)).slots =
        before ++ ⟨.planned 0, insertion.toMember⟩ :: after ∧
      snapshot.members.Sublist (before.map Slot.member) := by
  have first : ((ofSnapshot snapshot).insert insertion).slots =
      (ofSnapshot snapshot).slots ++ [⟨.planned 0, insertion.toMember⟩] := by
    refine insert_of_not_resolves ?_
    rintro ⟨_, _, _, _, found⟩
    exact found.ne_endOfClass last
  have kept : (((ofSnapshot snapshot).insertAll (insertion :: rest)).slots.filter fun slot =>
      slot.origin == .existing || slot.origin == .planned 0) =
        (ofSnapshot snapshot).slots ++ [⟨.planned 0, insertion.toMember⟩] := by
    change (((ofSnapshot snapshot).insert insertion).insertAll rest).slots.filter _ = _
    rw [insertAll_filter fun index later _ => by simp [insert, ofSnapshot], first,
      List.filter_eq_self.mpr fun slot member => ?_]
    rcases List.mem_append.mp member with old | new
    · obtain ⟨_, _, rfl⟩ := List.mem_map.mp old
      rfl
    · obtain rfl := List.mem_singleton.mp new
      rfl
  obtain ⟨front, back, split, same, tail⟩ := List.filter_eq_append_iff.mp kept
  obtain ⟨gap, after, rfl, _, _, _⟩ := List.filter_eq_cons_iff.mp tail
  refine ⟨front ++ gap, after, by simp [split], ?_⟩
  have members : (ofSnapshot snapshot).slots.map Slot.member = snapshot.members := by
    simp [ofSnapshot, Function.comp_def]
  rw [← members, ← same]
  exact (List.filter_sublist.trans (List.sublist_append_left front gap)).map Slot.member

theorem members_insertAll (snapshot : Snapshot) (insertions : List Insertion) :
    (((ofSnapshot snapshot).insertAll insertions).slots.map Slot.member).Perm
      (snapshot.members ++ insertions.map Insertion.toMember) := by
  have made := ((ofSnapshot snapshot).insertAll_perm insertions).map Slot.member
  simpa [ofSnapshot, plannedSlots_members, Function.comp_def] using made

theorem slot_cases (member : slot ∈ ((ofSnapshot snapshot).insertAll insertions).slots) :
    (slot.origin = .existing ∧ slot.member ∈ snapshot.members) ∨
      ∃ index insertion, insertions[index]? = some insertion ∧
        slot = ⟨.planned index, insertion.toMember⟩ := by
  have listed := ((ofSnapshot snapshot).insertAll_perm insertions).mem_iff.mp member
  rcases List.mem_append.mp listed with old | new
  · obtain ⟨declared, present, rfl⟩ := List.mem_map.mp old
    exact .inl ⟨rfl, present⟩
  · obtain ⟨index, insertion, entry, rfl⟩ := mem_plannedSlots_iff.mp new
    exact .inr ⟨index, insertion, entry, by simp [ofSnapshot]⟩

theorem insertAll_unique (snapshot : Snapshot) (insertions : List Insertion) :
    ((ofSnapshot snapshot).insertAll insertions).slots.Pairwise fun one other =>
      one.origin = other.origin → one.origin = .existing := by
  refine (((ofSnapshot snapshot).insertAll_perm insertions).pairwise_iff ?_).mpr ?_
  · intro one other differs same
    exact same.trans (differs same.symm)
  · refine List.pairwise_append.mpr ⟨?_, ?_, ?_⟩
    · exact List.pairwise_map.mpr (List.pairwise_of_forall fun _ _ _ => rfl)
    · exact (plannedSlots_distinct _ _).imp fun differs same => absurd same differs
    · intro one old _ _ _
      obtain ⟨_, _, rfl⟩ := List.mem_map.mp old
      rfl

end Layout

/-- Insertions whose anchors are there in their turn, with no two behind the same slot. -/
structure Fits (snapshot : Snapshot) (insertions : List Insertion) : Prop where
  existing : ∀ insertion ∈ insertions, ∀ key occurrence,
    insertion.anchor = .afterExisting key occurrence →
      occurrence < snapshot.members.countP fun member => member.key == key
  planned : ∀ (index : Nat) (insertion : Insertion), insertions[index]? = some insertion →
    insertion.anchor.OlderThan index
  distinct : insertions.Pairwise fun one other =>
    one.anchor = other.anchor → one.anchor = .endOfClass

namespace Layout

variable {snapshot : Snapshot}

theorem countP_existing (snapshot : Snapshot) (insertions : List Insertion) (key : MemberKey)
    (occurrence : Nat) :
    ((ofSnapshot snapshot).insertAll insertions).slots.countP
        (Anchor.means (.afterExisting key occurrence)) =
      snapshot.members.countP fun member => member.key == key := by
  have made := ((ofSnapshot snapshot).insertAll_perm insertions).countP_eq
    (Anchor.means (.afterExisting key occurrence))
  have none : (plannedSlots (ofSnapshot snapshot).planned insertions).countP
      (Anchor.means (.afterExisting key occurrence)) = 0 := by
    refine List.countP_eq_zero.mpr fun slot new => ?_
    obtain ⟨_, _, _, rfl⟩ := mem_plannedSlots_iff.mp new
    simp [Anchor.means]
  rw [made, List.countP_append, none, ofSnapshot, List.countP_map]
  simp [Function.comp_def, Anchor.means]

/-- An anchor within the class or the insertions before is there in its turn. -/
theorem resolves_insertAll
    (known : ∀ key occurrence, anchor = .afterExisting key occurrence →
      occurrence < snapshot.members.countP fun member => member.key == key)
    (older : anchor.OlderThan earlier.length) (placed : anchor ≠ .endOfClass) :
    ((ofSnapshot snapshot).insertAll earlier).Resolves anchor := by
  apply resolves_of_lt_countP
  cases anchor with
  | endOfClass => exact absurd rfl placed
  | afterExisting key occurrence =>
    rw [countP_existing]
    exact known key occurrence rfl
  | afterPlanned index =>
    have bound : index < earlier.length := older index rfl
    refine List.countP_pos_iff.mpr
      ⟨⟨.planned index, earlier[index].toMember⟩, ?_, by simp [Anchor.means]⟩
    refine ((ofSnapshot snapshot).insertAll_perm earlier).mem_iff.mpr (List.mem_append_right _ ?_)
    exact mem_plannedSlots_iff.mpr ⟨index, earlier[index], by simp, by simp [ofSnapshot]⟩

/-- An insertion that fits ends up right behind what its anchor means. -/
theorem follows_of_fits (fits : Fits snapshot insertions)
    (entry : insertions[index]? = some insertion) (placed : insertion.anchor ≠ .endOfClass) :
    ((ofSnapshot snapshot).insertAll insertions).Follows insertion.anchor
      ⟨.planned index, insertion.toMember⟩ := by
  obtain ⟨earlier, later, rfl, rfl⟩ := exists_split_of_getElem? entry
  have made : ((ofSnapshot snapshot).insertAll earlier).planned = earlier.length := by
    simp [insertAll_planned, ofSnapshot]
  have older : insertion.anchor.OlderThan earlier.length :=
    fits.planned earlier.length insertion (by simp)
  have follows := follows_insert_self
    (resolves_insertAll (fits.existing insertion (by simp)) older placed)
  simp only [newSlot, made] at follows
  rw [insertAll_append]
  change ((((ofSnapshot snapshot).insertAll earlier).insert insertion).insertAll later).Follows _ _
  refine follows_insertAll follows ?_ ?_
  · intro other member same
    have distinct := (List.pairwise_append.mp fits.distinct).2.1
    exact placed ((List.pairwise_cons.mp distinct).1 other member same.symm)
  · exact older.mono (by simp [insert, made])

end Layout
end Boilerplate.Merge
