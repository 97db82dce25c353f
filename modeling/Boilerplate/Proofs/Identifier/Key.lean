import Boilerplate.Proofs.Identifier
import Mathlib

/-! The constant of the primary key. Of the names only `id` and `Id` have it: in any other spelling of
`id` the capital at the end is a word of its own. -/
namespace Boilerplate.Identifier

section Letters

theorem toLower_cases (c : Char) : c.toLower = c ∨ ∃ n < 26, c = Char.ofNat (65 + n) := by
  by_cases capital : 'A'.val ≤ c.val ∧ c.val ≤ 'Z'.val
  · have bounds : 65 ≤ c.toNat ∧ c.toNat ≤ 90 := capital
    refine .inr ⟨c.toNat - 65, by omega, ?_⟩
    rw [Nat.add_sub_cancel' bounds.1, Char.ofNat_toNat]
  · exact .inl (dif_neg capital)

/-- The two forms of a letter. -/
theorem toLower_eq_iff {small capital : Char} (pair : small.toLower = small ∧ capital.toLower = small)
    (only : ∀ n < 26, (Char.ofNat (65 + n)).toLower = small → Char.ofNat (65 + n) = capital) {c : Char} :
    c.toLower = small ↔ c = small ∨ c = capital := by
  constructor
  · intro lowered
    rcases toLower_cases c with same | ⟨n, letter, rfl⟩
    · exact .inl (same.symm.trans lowered)
    · exact .inr (only n letter lowered)
  · rintro (rfl | rfl)
    · exact pair.1
    · exact pair.2

theorem toLower_eq_i_iff : c.toLower = 'i' ↔ c = 'i' ∨ c = 'I' :=
  toLower_eq_iff (by decide) (by decide)

theorem toLower_eq_d_iff : c.toLower = 'd' ↔ c = 'd' ∨ c = 'D' :=
  toLower_eq_iff (by decide) (by decide)

end Letters

section Key

theorem sameButCase_id_iff {name : String} :
    sameButCase name "id" = true ↔ name ∈ ["id", "Id", "iD", "ID"] := by
  constructor
  · intro same
    have letters : name.toList.map Char.toLower = ['i', 'd'] := beq_iff_eq.mp same
    obtain ⟨first, rest, split, one, others⟩ := List.map_eq_cons_iff.mp letters
    obtain ⟨second, more, rfl, other, none⟩ := List.map_eq_cons_iff.mp others
    obtain rfl := List.map_eq_nil_iff.mp none
    have spelled : name = String.ofList [first, second] := by rw [← split, String.ofList_toList]
    rcases toLower_eq_i_iff.mp one with rfl | rfl <;> rcases toLower_eq_d_iff.mp other with rfl | rfl <;>
      simp [spelled]
  · simp only [List.mem_cons, List.not_mem_nil, or_false]
    rintro (rfl | rfl | rfl | rfl) <;> rfl

theorem snakePart_ne_nil (c : Char) : snakePart c ≠ [] := by
  unfold snakePart
  split <;> exact List.cons_ne_nil _ _

/-- In a capital the second letter would be a word of its own. -/
theorem upperSnakeChars_eq_id (same : (upperSnakeChars cs).map Char.toLower = ['i', 'd']) :
    cs = ['i', 'd'] ∨ cs = ['I', 'd'] := by
  cases cs with
  | nil => cases same
  | cons first rest =>
    rw [upperSnakeChars, List.map_cons, Char.toLower_toUpper_eq_toLower, List.cons.injEq] at same
    obtain ⟨one, others⟩ := same
    cases rest with
    | nil => cases others
    | cons second more =>
      rw [List.flatMap_cons, snakePart, List.map_append] at others
      split at others
      · cases others
      · rename_i small
        rw [List.map_cons, List.map_nil, Char.toLower_toUpper_eq_toLower, List.singleton_append,
          List.cons.injEq] at others
        obtain ⟨other, none⟩ := others
        have ended : more = [] := by
          have each := List.flatMap_eq_nil_iff.mp (List.map_eq_nil_iff.mp none)
          exact List.eq_nil_iff_forall_not_mem.mpr fun c member => snakePart_ne_nil c (each c member)
        have letter : second = 'd' := by
          rcases toLower_eq_d_iff.mp other with rfl | rfl
          · rfl
          · exact absurd rfl small
        rw [ended, letter]
        rcases toLower_eq_i_iff.mp one with rfl | rfl
        · exact .inl rfl
        · exact .inr rfl

/-- The constant of the primary key. -/
theorem isPrimaryKey_ofField_iff {name : String} :
    isPrimaryKey (ofField name) = true ↔ name = "id" ∨ name = "Id" := by
  constructor
  · intro key
    have snake : (upperSnake name).toList = upperSnakeChars name.toList := String.toList_ofList
    have chars : (ofField name).toList = "FIELD_".toList ++ upperSnakeChars name.toList := by
      rw [ofField, String.toList_append, snake]
    have letters := beq_iff_eq.mp key
    rw [chars, List.map_append] at letters
    have word : (upperSnakeChars name.toList).map Char.toLower = ['i', 'd'] :=
      List.append_cancel_left letters
    rcases upperSnakeChars_eq_id word with spelled | spelled
    · exact .inl (String.toList_injective spelled)
    · exact .inr (String.toList_injective spelled)
  · rintro (rfl | rfl) <;> rfl

theorem ofField_eq_key_iff {name : String} :
    ofField name = "FIELD_ID" ↔ isPrimaryKey (ofField name) = true := by
  constructor
  · intro same
    rw [same]
    rfl
  · intro key
    rcases isPrimaryKey_ofField_iff.mp key with rfl | rfl <;> rfl

/-- The key is the field named `id` in any case, but for a capital at the end. -/
theorem isPrimaryKey_ofField_iff_sameButCase {name : String} : isPrimaryKey (ofField name) = true ↔
    sameButCase name "id" = true ∧ name ∉ ["iD", "ID"] := by
  rw [isPrimaryKey_ofField_iff, sameButCase_id_iff]
  constructor
  · rintro (rfl | rfl) <;> decide
  · simp only [List.mem_cons, List.not_mem_nil, or_false, not_or]
    rintro ⟨rfl | rfl | rfl | rfl, small, capital⟩
    · exact .inl rfl
    · exact .inr rfl
    · exact absurd rfl small
    · exact absurd rfl capital

end Key
end Boilerplate.Identifier
