import Boilerplate.Merge.Layout

/-! What an anchor means in a layout, and what one insertion does there: it puts one slot behind the
slot that its anchor means, or at the end, and moves nothing. Slots behind different anchors never
compete for a gap, so a slot that stands behind its anchor stays there. -/
namespace Boilerplate.Merge

section Occurrences
variable {α : Type} {test : α → Bool}

theorem nthIdx?_eq_some_iff {n i : Nat} {as : List α} :
    nthIdx? test n as = some i ↔ ∃ before a after, as = before ++ a :: after ∧
      test a = true ∧ before.countP test = n ∧ before.length = i := by
  induction as generalizing n i with
  | nil => simp [nthIdx?]
  | cons head tail ih =>
    constructor
    · intro found
      unfold nthIdx? at found
      split at found
      · rename_i passes
        cases n with
        | zero =>
          cases found
          exact ⟨[], head, tail, rfl, passes, rfl, rfl⟩
        | succ n =>
          obtain ⟨j, later, rfl⟩ := Option.map_eq_some_iff.mp found
          obtain ⟨before, a, after, rfl, hit, count, length⟩ := ih.mp later
          exact ⟨head :: before, a, after, rfl, hit, by simp [passes, count], by simp [length]⟩
      · rename_i fails
        obtain ⟨j, later, rfl⟩ := Option.map_eq_some_iff.mp found
        obtain ⟨before, a, after, rfl, hit, count, length⟩ := ih.mp later
        exact ⟨head :: before, a, after, rfl, hit, by simp [fails, count], by simp [length]⟩
    · rintro ⟨before, a, after, split, hit, count, length⟩
      cases before with
      | nil =>
        obtain ⟨rfl, rfl⟩ := List.cons.inj split
        cases count
        cases length
        simp [nthIdx?, hit]
      | cons first before =>
        obtain ⟨rfl, rfl⟩ := List.cons.inj split
        have later {m : Nat} (same : before.countP test = m) :
            nthIdx? test m (before ++ a :: after) = some before.length :=
          ih.mpr ⟨before, a, after, rfl, hit, same, rfl⟩
        by_cases passes : test head = true
        · rw [List.countP_cons_of_pos passes] at count
          subst count
          simp [nthIdx?, passes, later rfl, ← length]
        · rw [List.countP_cons_of_neg passes] at count
          simp [nthIdx?, passes, later count, ← length]

theorem split_unique (test : α → Bool) {before front after back : List α} {a b : α}
    (same : before ++ a :: after = front ++ b :: back) (hitOne : test a = true) (hitOther : test b = true)
    (count : before.countP test = front.countP test) : before = front ∧ a = b := by
  have one : nthIdx? test (front.countP test) (before ++ a :: after) = some before.length :=
    nthIdx?_eq_some_iff.mpr ⟨before, a, after, rfl, hitOne, count, rfl⟩
  have other : nthIdx? test (front.countP test) (before ++ a :: after) = some front.length :=
    nthIdx?_eq_some_iff.mpr ⟨front, b, back, same, hitOther, rfl, rfl⟩
  have length : before.length = front.length := Option.some.inj (one.symm.trans other)
  obtain ⟨start, rest⟩ := List.append_inj same length
  exact ⟨start, (List.cons.inj rest).1⟩

theorem nthIdx?_zero (as : List α) : nthIdx? test 0 as = as.findIdx? test := by
  induction as with
  | nil => rfl
  | cons head tail ih =>
    by_cases passes : test head = true <;> simp [nthIdx?, passes, ih, List.findIdx?_cons]

/-- Among more than `n` elements that pass there is one with `n` such elements before it. -/
theorem exists_split_of_lt_countP {n : Nat} {as : List α} (enough : n < as.countP test) :
    ∃ before a after, as = before ++ a :: after ∧ test a = true ∧ before.countP test = n := by
  induction as generalizing n with
  | nil => simp at enough
  | cons head tail ih =>
    by_cases passes : test head = true
    · rw [List.countP_cons_of_pos passes] at enough
      cases n with
      | zero => exact ⟨[], head, tail, rfl, passes, rfl⟩
      | succ n =>
        obtain ⟨before, a, after, rfl, hit, count⟩ := ih (Nat.lt_of_succ_lt_succ enough)
        exact ⟨head :: before, a, after, rfl, hit, by simp [passes, count]⟩
    · rw [List.countP_cons_of_neg passes] at enough
      obtain ⟨before, a, after, rfl, hit, count⟩ := ih enough
      exact ⟨head :: before, a, after, rfl, hit, by simp [passes, count]⟩

end Occurrences

namespace Anchor

/-- The slots that an anchor counts. -/
def means : Anchor → Slot → Bool
  | endOfClass, _ => false
  | afterExisting key _, slot => slot.origin == .existing && slot.member.key == key
  | afterPlanned index, slot => slot.origin == .planned index

/-- How many of the slots that it counts an anchor passes over. -/
def occurrence : Anchor → Nat
  | afterExisting _ occurrence => occurrence
  | _ => 0

/-- The anchor means a slot that has these slots before it. -/
def Finds (anchor : Anchor) (before : List Slot) (slot : Slot) : Prop :=
  anchor.means slot = true ∧ before.countP anchor.means = anchor.occurrence

/-- Two anchors never mean the same slot. -/
theorem Finds.unique {first second : Anchor} (one : first.Finds before slot)
    (other : second.Finds before slot) : first = second := by
  obtain ⟨meansOne, countOne⟩ := one
  obtain ⟨meansOther, countOther⟩ := other
  cases first with
  | endOfClass => simp [means] at meansOne
  | afterExisting key n =>
    cases second with
    | endOfClass => simp [means] at meansOther
    | afterExisting otherKey m =>
      simp only [means, Bool.and_eq_true, beq_iff_eq] at meansOne meansOther
      obtain rfl : key = otherKey := meansOne.2.symm.trans meansOther.2
      exact congrArg (afterExisting key) (countOne.symm.trans countOther)
    | afterPlanned index => simp_all [means]
  | afterPlanned index =>
    cases second with
    | endOfClass => simp [means] at meansOther
    | afterExisting key n => simp_all [means]
    | afterPlanned other => simp_all [means]

theorem Finds.ne_endOfClass {anchor : Anchor} (found : anchor.Finds before slot) :
    anchor ≠ .endOfClass := by
  rintro rfl
  simp [Finds, means] at found

end Anchor

namespace Layout

variable {layout : Layout} {insertion : Insertion} {anchor : Anchor} {slot : Slot}

theorem anchorPosition?_eq_some_iff {position : Nat} :
    layout.anchorPosition? anchor = some position ↔ ∃ before target after,
      layout.slots = before ++ target :: after ∧ anchor.Finds before target ∧
        before.length + 1 = position := by
  have place : layout.anchorPosition? anchor =
      (nthIdx? anchor.means anchor.occurrence layout.slots).map (· + 1) := by
    cases anchor with
    | endOfClass =>
      cases none : nthIdx? (Anchor.means .endOfClass) 0 layout.slots with
      | none => simp [anchorPosition?, Anchor.occurrence, none]
      | some i =>
        obtain ⟨_, _, _, _, hit, _⟩ := nthIdx?_eq_some_iff.mp none
        simp [Anchor.means] at hit
    | afterExisting key n => rfl
    | afterPlanned index => exact congrArg (Option.map (· + 1)) (nthIdx?_zero _).symm
  simp only [place, Option.map_eq_some_iff, nthIdx?_eq_some_iff, Anchor.Finds]
  constructor
  · rintro ⟨_, ⟨before, target, after, split, hit, count, rfl⟩, rfl⟩
    exact ⟨before, target, after, split, ⟨hit, count⟩, rfl⟩
  · rintro ⟨before, target, after, split, ⟨hit, count⟩, rfl⟩
    exact ⟨_, ⟨before, target, after, split, hit, count, rfl⟩, rfl⟩

def Resolves (layout : Layout) (anchor : Anchor) : Prop :=
  ∃ before target after, layout.slots = before ++ target :: after ∧ anchor.Finds before target

theorem resolves_of_lt_countP
    (enough : anchor.occurrence < layout.slots.countP anchor.means) : layout.Resolves anchor := by
  obtain ⟨before, target, after, split, hit, count⟩ := exists_split_of_lt_countP enough
  exact ⟨before, target, after, split, hit, count⟩

def newSlot (layout : Layout) (insertion : Insertion) : Slot :=
  ⟨.planned layout.planned, insertion.toMember⟩

theorem insertIdx_length_append {α : Type} (front back : List α) (a : α) :
    (front ++ back).insertIdx front.length a = front ++ a :: back := by
  induction front with
  | nil => simp
  | cons head front ih => simp [ih]

theorem insert_of_finds (split : layout.slots = before ++ target :: after)
    (found : insertion.anchor.Finds before target) :
    (layout.insert insertion).slots = before ++ target :: layout.newSlot insertion :: after := by
  have position : layout.anchorPosition? insertion.anchor = some (before.length + 1) :=
    anchorPosition?_eq_some_iff.mpr ⟨before, target, after, split, found, rfl⟩
  have behind := insertIdx_length_append (before ++ [target]) after (layout.newSlot insertion)
  simpa [insert, position, split, newSlot] using behind

theorem insert_of_not_resolves (lost : ¬ layout.Resolves insertion.anchor) :
    (layout.insert insertion).slots = layout.slots ++ [layout.newSlot insertion] := by
  have position : layout.anchorPosition? insertion.anchor = none := by
    cases place : layout.anchorPosition? insertion.anchor with
    | none => rfl
    | some position =>
      obtain ⟨before, target, after, split, found, _⟩ := anchorPosition?_eq_some_iff.mp place
      exact absurd ⟨before, target, after, split, found⟩ lost
  simp [insert, position, newSlot]

/-- All that an insertion does to the slots. -/
theorem insert_cases (layout : Layout) (insertion : Insertion) :
    (∃ before target after, layout.slots = before ++ target :: after ∧
      insertion.anchor.Finds before target ∧
      (layout.insert insertion).slots = before ++ target :: layout.newSlot insertion :: after) ∨
    (layout.insert insertion).slots = layout.slots ++ [layout.newSlot insertion] := by
  by_cases resolves : layout.Resolves insertion.anchor
  · obtain ⟨before, target, after, split, found⟩ := resolves
    exact .inl ⟨before, target, after, split, found, insert_of_finds split found⟩
  · exact .inr (insert_of_not_resolves resolves)

end Layout
end Boilerplate.Merge
