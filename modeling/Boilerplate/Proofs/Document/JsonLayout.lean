import Boilerplate.Document.JsonPrinter
import Boilerplate.Document.JsonReader

/-! The layouts of JSON. Between the parts of lists and records there may be blanks, and where they
stand is all in which the two forms of writing differ. -/
namespace Boilerplate.Json

/-- The blanks before each part of a list or record at a level, and those after the colon of an
entry. -/
structure Layout where
  gap : Nat → List Char
  pause : List Char
  gap_space : ∀ level, ∀ c ∈ gap level, isSpace c = true
  pause_space : ∀ c ∈ pause, isSpace c = true

def Layout.indented : Layout where
  gap level := '\n' :: List.replicate (2 * level) ' '
  pause := [' ']
  gap_space level c member := by
    rcases List.mem_cons.mp member with rfl | blank
    · rfl
    · rw [(List.mem_replicate.mp blank).2]
      rfl
  pause_space := List.forall_mem_singleton.mpr rfl

def Layout.dense : Layout where
  gap _ := []
  pause := []
  gap_space _ _ member := by cases member
  pause_space _ member := by cases member

variable (layout : Layout)

mutual
/-- The text of a document that begins at a level. -/
def spell (level : Nat) : Document → List Char
  | .list [] => ['[', ']']
  | .list (first :: more) =>
    '[' :: (layout.gap (level + 1) ++ (spell (level + 1) first ++ spellItems level more))
  | .record [] => ['\x7b', '\x7d']
  | .record ((key, first) :: more) =>
    '\x7b' :: (layout.gap (level + 1) ++ ((quote key).toList ++
      ':' :: (layout.pause ++ (spell (level + 1) first ++ spellEntries level more))))
  | document => (scalar document).toList

/-- The items after the first of a list. -/
def spellItems (level : Nat) : List Document → List Char
  | [] => layout.gap level ++ [']']
  | next :: more =>
    ',' :: (layout.gap (level + 1) ++ (spell (level + 1) next ++ spellItems level more))

/-- The entries after the first of a record. -/
def spellEntries (level : Nat) : List (String × Document) → List Char
  | [] => layout.gap level ++ ['\x7d']
  | (key, next) :: more =>
    ',' :: (layout.gap (level + 1) ++ ((quote key).toList ++
      ':' :: (layout.pause ++ (spell (level + 1) next ++ spellEntries level more))))
end

theorem toList_newLine (level : Nat) : (newLine level).toList = Layout.indented.gap level := by
  simp [newLine, Layout.indented]

mutual
theorem toList_pretty : ∀ (document : Document) (level : Nat),
    (pretty level document).toList = spell .indented level document
  | .list [], _ => by
    unfold pretty spell
    rfl
  | .list (first :: more), level => by
    unfold pretty spell
    simp only [String.toList_append, toList_newLine, toList_pretty first, toList_prettyItems more,
      List.append_assoc]
    rfl
  | .record [], _ => by
    unfold pretty spell
    rfl
  | .record ((key, first) :: more), level => by
    unfold pretty spell
    simp only [String.toList_append, toList_newLine, toList_pretty first, toList_prettyEntries more,
      List.append_assoc]
    rfl
  | .null, _ | .bool _, _ | .natural _, _ | .numeral _, _ | .text _, _ | .garbled, _ => by
    unfold pretty spell
    rfl

theorem toList_prettyItems : ∀ (items : List Document) (level : Nat),
    (prettyItems level items).toList = spellItems .indented level items
  | [], level => by
    unfold prettyItems spellItems
    rw [String.toList_append, toList_newLine]
    rfl
  | next :: more, level => by
    unfold prettyItems spellItems
    simp only [String.toList_append, toList_newLine, toList_pretty next, toList_prettyItems more,
      List.append_assoc]
    rfl

theorem toList_prettyEntries : ∀ (entries : List (String × Document)) (level : Nat),
    (prettyEntries level entries).toList = spellEntries .indented level entries
  | [], level => by
    unfold prettyEntries spellEntries
    rw [String.toList_append, toList_newLine]
    rfl
  | (key, next) :: more, level => by
    unfold prettyEntries spellEntries
    simp only [String.toList_append, toList_newLine, toList_pretty next, toList_prettyEntries more,
      List.append_assoc]
    rfl
end

mutual
theorem toList_compact : ∀ (document : Document) (level : Nat),
    (compact document).toList = spell .dense level document
  | .list [], _ => by
    unfold compact spell
    rfl
  | .list (first :: more), level => by
    unfold compact spell
    simp only [String.toList_append, toList_compact first (level + 1),
      toList_compactItems more level, List.append_assoc]
    rfl
  | .record [], _ => by
    unfold compact spell
    rfl
  | .record ((key, first) :: more), level => by
    unfold compact spell
    simp only [String.toList_append, toList_compact first (level + 1),
      toList_compactEntries more level, List.append_assoc]
    rfl
  | .null, _ | .bool _, _ | .natural _, _ | .numeral _, _ | .text _, _ | .garbled, _ => by
    unfold compact spell
    rfl

theorem toList_compactItems : ∀ (items : List Document) (level : Nat),
    (compactItems items).toList = spellItems .dense level items
  | [], level => by
    unfold compactItems spellItems
    rfl
  | next :: more, level => by
    unfold compactItems spellItems
    simp only [String.toList_append, toList_compact next (level + 1),
      toList_compactItems more level, List.append_assoc]
    rfl

theorem toList_compactEntries : ∀ (entries : List (String × Document)) (level : Nat),
    (compactEntries entries).toList = spellEntries .dense level entries
  | [], level => by
    unfold compactEntries spellEntries
    rfl
  | (key, next) :: more, level => by
    unfold compactEntries spellEntries
    simp only [String.toList_append, toList_compact next (level + 1),
      toList_compactEntries more level, List.append_assoc]
    rfl
end

end Boilerplate.Json
