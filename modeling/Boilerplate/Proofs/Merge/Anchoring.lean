import Boilerplate.Proofs.Merge.Planner

/-! The anchors of planned schema insertions. Constants form a chain: each anchor is behind the
declaration processed before, or behind the first declaration that differs. Because the keys differ,
no two insertions go behind the same declaration. -/
namespace Boilerplate.Merge
open Schema (MemberText)

/-- The anchor is behind a declaration under one of the keys, or behind an insertion made after so
many others. -/
def Anchor.Within (keys : List MemberKey) (index : Nat) : Anchor → Prop
  | endOfClass => False
  | afterExisting key _ => key ∈ keys
  | afterPlanned made => index ≤ made

theorem Anchor.Within.mono {anchor : Anchor} (within : anchor.Within keys next)
    (more : keys ⊆ others) (grows : index ≤ next) : anchor.Within others index := by
  cases anchor with
  | endOfClass => exact within
  | afterExisting key occurrence => exact more within
  | afterPlanned made => exact Nat.le_trans grows within

section Constants
variable {note : String} {existing : List Declaration} {previous : Option Anchor}
  {constant : Constant} {constants : List Constant} {insertion : Insertion} {index : Nat}

theorem processedAnchor_within (existing : List Declaration) (index : Nat) (constant : Constant) :
    (processedAnchor existing index constant).Within [constant.key] index := by
  unfold processedAnchor
  cases Verdict.of existing constant <;> simp [Anchor.Within]

theorem constantInsertion?_anchor
    (made : constantInsertion? note existing previous constant = some insertion) (index : Nat) :
    (insertion.anchor = previous.getD .endOfClass ∨
        insertion.anchor = .afterExisting constant.key 0) ∧
      processedAnchor existing index constant = .afterPlanned index := by
  rcases constantInsertion?_cases made with ⟨missing, rfl⟩ | ⟨_, differing, rfl⟩
  · exact ⟨.inl rfl, by rw [processedAnchor, missing]⟩
  · exact ⟨.inr rfl, by rw [processedAnchor, differing]⟩

theorem constantInsertions_anchor
    (member : insertion ∈ constantInsertions note existing previous index constants) :
    insertion.anchor = previous.getD .endOfClass ∨
      insertion.anchor.Within (constants.map Constant.key) index := by
  induction constants generalizing previous index with
  | nil => cases member
  | cons constant more ih =>
    rw [constantInsertions_cons] at member
    have grows : [constant.key] ⊆ (constant :: more).map Constant.key := by simp
    rcases List.mem_append.mp member with first | later
    · rcases (constantInsertion?_anchor (Option.mem_toList.mp first) index).1 with behind | differing
      · exact .inl behind
      · refine .inr (differing ▸ ?_)
        exact List.mem_cons_self
    · refine .inr ?_
      rcases ih later with behind | within
      · rw [behind]
        exact (processedAnchor_within existing index constant).mono grows (Nat.le_refl _)
      · exact within.mono (List.subset_cons_self ..) (Nat.le_add_right _ _)

/-- The declaration processed for a constant is not one that later constants may follow on. -/
theorem processedAnchor_not_within {keys : List MemberKey} (other : constant.key ∉ keys) :
    ¬ (processedAnchor existing index constant).Within keys
      (index + (constantInsertion? note existing previous constant).toList.length) := by
  unfold constantInsertion? processedAnchor
  cases Verdict.of existing constant <;> simp [Anchor.Within, other]

theorem processedAnchor_older : (processedAnchor existing index constant).OlderThan
    (index + (constantInsertion? note existing previous constant).toList.length) := by
  unfold constantInsertion? processedAnchor
  cases Verdict.of existing constant <;> simp [Anchor.OlderThan]

theorem constantInsertions_distinct (nodup : (constants.map Constant.key).Nodup)
    (apart : ∀ anchor, previous = some anchor → ¬ anchor.Within (constants.map Constant.key) index) :
    (constantInsertions note existing previous index constants).Pairwise fun one other =>
      one.anchor = other.anchor → one.anchor = .endOfClass := by
  induction constants generalizing previous index with
  | nil => exact .nil
  | cons constant more ih =>
    obtain ⟨fresh, distinct⟩ := List.nodup_cons.mp nodup
    rw [constantInsertions_cons]
    refine List.pairwise_append.mpr ⟨?_, ?_, ?_⟩
    · cases constantInsertion? note existing previous constant <;> simp
    · refine ih distinct fun anchor same => ?_
      cases same
      exact processedAnchor_not_within fresh
    -- Later insertions follow the declaration processed here or one processed after it.
    · intro one first other later same
      have made := Option.mem_toList.mp first
      have length : (constantInsertion? note existing previous constant).toList.length = 1 := by
        rw [made]
        rfl
      rw [length] at later
      obtain ⟨place, processed⟩ := constantInsertion?_anchor made index
      have follows := constantInsertions_anchor later
      rw [processed, Option.getD_some] at follows
      rcases place with behind | differing
      · cases previous with
        | none => exact behind
        | some anchor =>
          rw [Option.getD_some] at behind
          refine absurd ?_ (apart anchor rfl)
          rw [← behind, same]
          rcases follows with next | within
          · rw [next]
            exact Nat.le_refl index
          · exact within.mono (List.subset_cons_self ..) (Nat.le_succ _)
      · rw [← same, differing] at follows
        rcases follows with next | within
        · cases next
        · exact absurd within fresh

theorem constantInsertions_older (older : ∀ anchor, previous = some anchor → anchor.OlderThan index)
    (entry : (constantInsertions note existing previous index constants)[place]? = some insertion) :
    insertion.anchor.OlderThan (index + place) := by
  induction constants generalizing previous index place with
  | nil => cases entry
  | cons constant more ih =>
    rw [constantInsertions_cons] at entry
    have processed : ∀ anchor, some (processedAnchor existing index constant) = some anchor →
        anchor.OlderThan
          (index + (constantInsertion? note existing previous constant).toList.length) := by
      rintro anchor ⟨⟩
      exact processedAnchor_older
    cases made : constantInsertion? note existing previous constant with
    | none =>
      simp only [made, Option.toList_none, List.nil_append, List.length_nil, Nat.add_zero]
        at entry processed
      exact ih processed entry
    | some first =>
      simp only [made, Option.toList_some, List.singleton_append, List.length_singleton]
        at entry processed
      cases place with
      | zero =>
        obtain rfl : first = insertion := by simpa using entry
        rcases (constantInsertion?_anchor made index).1 with behind | differing
        · cases previous with
          | none => simp [behind, Anchor.OlderThan]
          | some anchor =>
            rw [behind]
            exact older anchor rfl
        · simp [differing, Anchor.OlderThan]
      | succ place =>
        have later := ih processed (by simpa using entry)
        rwa [Nat.add_assoc, Nat.add_comm 1] at later

end Constants

section Existing
variable {note : String} {snapshot : Snapshot} {previous : Option Anchor} {constant : Constant}
  {constants : List Constant} {insertion : Insertion} {index : Nat}

/-- The anchor is at a member that the class has, if it is at one under a key at all. -/
def Anchor.InClass (snapshot : Snapshot) (anchor : Anchor) : Prop :=
  ∀ key occurrence, anchor = .afterExisting key occurrence →
    occurrence < snapshot.members.countP fun member => member.key == key

theorem processedAnchor_inClass (snapshot : Snapshot) (index : Nat) (constant : Constant) :
    (processedAnchor snapshot.declarations index constant).InClass snapshot := by
  intro key occurrence same
  unfold processedAnchor at same
  cases verdict : Verdict.of snapshot.declarations constant with
  | missing => simp [verdict] at same
  | differing first => simp [verdict] at same
  | held n =>
    simp only [verdict, Anchor.afterExisting.injEq] at same
    obtain ⟨rfl, rfl⟩ := same
    obtain ⟨before, member, after, split, held, _, count⟩ := exists_held_split verdict
    rw [split, List.countP_append, count, List.countP_cons, Constant.heldBy_key held]
    simp only [BEq.rfl, if_true]
    omega

theorem constantInsertion?_inClass (known : ∀ anchor, previous = some anchor → anchor.InClass snapshot)
    (made : constantInsertion? note snapshot.declarations previous constant = some insertion) :
    insertion.anchor.InClass snapshot := by
  rcases constantInsertion?_cases made with ⟨_, rfl⟩ | ⟨first, differing, rfl⟩
  · cases previous with
    | none => exact fun _ _ same => by cases same
    | some anchor => exact known anchor rfl
  · rintro _ _ ⟨⟩
    have found := (Verdict.of_eq_differing_iff.mp differing).1
    have declared := Snapshot.mem_declarations_iff.mp (List.mem_of_find?_eq_some found)
    have named := List.find?_some found
    exact List.countP_pos_iff.mpr ⟨_, declared, by simpa [Member.key, Constant.key] using named⟩

theorem constantInsertions_inClass
    (known : ∀ anchor, previous = some anchor → anchor.InClass snapshot)
    (member : insertion ∈ constantInsertions note snapshot.declarations previous index constants) :
    insertion.anchor.InClass snapshot := by
  induction constants generalizing previous index with
  | nil => cases member
  | cons constant more ih =>
    rw [constantInsertions_cons] at member
    rcases List.mem_append.mp member with first | later
    · exact constantInsertion?_inClass known (Option.mem_toList.mp first)
    · refine ih (fun anchor same => ?_) later
      cases same
      exact processedAnchor_inClass snapshot index constant

theorem memberInsertion?_anchor {generated : MemberText}
    (made : memberInsertion? note snapshot generated = some insertion) :
    insertion.anchor = .endOfClass ∨ insertion.anchor = .afterExisting generated.key 0 ∧
      ∃ member ∈ snapshot.members, member.key = generated.key := by
  rcases memberInsertion?_cases made with ⟨_, rfl⟩ | ⟨differing, rfl⟩
  · exact .inl rfl
  · exact .inr ⟨rfl, (MemberVerdict.of_eq_differing_iff.mp differing).1⟩

theorem memberInsertions_distinct {members : List MemberText}
    (nodup : (members.map MemberText.key).Nodup) :
    (members.filterMap (memberInsertion? note snapshot)).Pairwise fun one other =>
      one.anchor = other.anchor → one.anchor = .endOfClass := by
  refine List.pairwise_filterMap.mpr ((List.pairwise_map.mp nodup).imp ?_)
  intro first second differ one made other madeToo same
  rcases memberInsertion?_anchor made with last | ⟨place, _⟩
  · exact last
  · rcases memberInsertion?_anchor madeToo with last | ⟨placeToo, _⟩
    · exact same.trans last
    · rw [place, placeToo] at same
      exact absurd (Anchor.afterExisting.inj same).1 differ

theorem schemaInsertions_inClass {artifacts : Schema.Artifacts}
    (member : insertion ∈ schemaInsertions note snapshot artifacts) :
    insertion.anchor.InClass snapshot := by
  intro key occurrence same
  rcases List.mem_append.mp member with declared | other
  · exact constantInsertions_inClass (fun _ none => by cases none) declared key occurrence same
  · obtain ⟨generated, _, made⟩ := List.mem_filterMap.mp other
    rcases memberInsertion?_anchor made with last | ⟨place, found, present, named⟩
    · rw [last] at same
      cases same
    · rw [place] at same
      cases same
      exact List.countP_pos_iff.mpr ⟨found, present, by simpa using named⟩

theorem schemaInsertions_older {artifacts : Schema.Artifacts}
    (entry : (schemaInsertions note snapshot artifacts)[index]? = some insertion) :
    insertion.anchor.OlderThan index := by
  rw [schemaInsertions, List.getElem?_append] at entry
  split at entry
  · have older := constantInsertions_older (fun _ none => by cases none) entry
    rwa [Nat.zero_add] at older
  · obtain ⟨generated, _, made⟩ := List.mem_filterMap.mp (List.mem_of_getElem? entry)
    intro planned same
    rcases memberInsertion?_anchor made with last | ⟨place, _⟩
    · rw [last] at same
      cases same
    · rw [place] at same
      cases same

/-- The planned insertions for schema members fit, since the generated keys differ. -/
theorem schemaInsertions_fits (note : String) (snapshot : Snapshot) {artifacts : Schema.Artifacts}
    (nodup : artifacts.keys.Nodup) : Fits snapshot (schemaInsertions note snapshot artifacts) := by
  obtain ⟨constants, members, apart⟩ := List.nodup_append.mp nodup
  constructor
  · exact fun _ member => schemaInsertions_inClass member
  · exact fun _ _ entry => schemaInsertions_older entry
  · refine List.pairwise_append.mpr ⟨?_, memberInsertions_distinct members, ?_⟩
    · exact constantInsertions_distinct constants fun _ none => by cases none
    · intro one declared other later same
      obtain ⟨generated, among, made⟩ := List.mem_filterMap.mp later
      rcases memberInsertion?_anchor made with last | ⟨place, _⟩
      · exact same.trans last
      · rcases constantInsertions_anchor declared with first | within
        · exact first
        · rw [same, place] at within
          exact absurd rfl (apart _ within _ (List.mem_map_of_mem among))

end Existing
end Boilerplate.Merge
