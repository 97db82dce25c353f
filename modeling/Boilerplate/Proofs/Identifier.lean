import Boilerplate.Identifier
import Boilerplate.Proofs.Text.Blank

/-! The characters of names. None of them is blank, and a text of them ends where the first other
character stands, so what follows a name tells where it ends. -/
namespace Boilerplate.Identifier
open Text

/-- Only characters that a name may have after its first. -/
def IsWord (cs : List Char) : Prop := ∀ c ∈ cs, isPart c = true

/-- No name goes on into this text. -/
def EndsWord (cs : List Char) : Prop := ∀ c, cs.head? = some c → isPart c = false

theorem endsWord_cons (mark : isPart c = false) (cs : List Char) : EndsWord (c :: cs) := by
  intro d first
  obtain rfl : c = d := by simpa using first
  exact mark

theorem IsWord.append (first : IsWord cs) (second : IsWord ds) : IsWord (cs ++ ds) := by
  intro c member
  rcases List.mem_append.mp member with early | late
  · exact first c early
  · exact second c late

theorem IsWord.takeWhile (word : IsWord cs) (ends : EndsWord rest) :
    (cs ++ rest).takeWhile isPart = cs := by
  rw [List.takeWhile_append_of_pos word]
  cases rest with
  | nil => simp
  | cons c rest => simp [ends c rfl]

/-- Where a word ends, two readings of a text agree. -/
theorem IsWord.append_inj {first second : List Char} (one : IsWord first) (other : IsWord second)
    (ends : EndsWord rest) (endsToo : EndsWord more) (same : first ++ rest = second ++ more) :
    first = second ∧ rest = more := by
  have read := congrArg (List.takeWhile isPart) same
  rw [one.takeWhile ends, other.takeWhile endsToo] at read
  subst read
  exact ⟨rfl, List.append_cancel_left same⟩

section Blanks

/-- All blank characters. -/
def blankCodes : List Nat :=
  [9, 10, 11, 12, 13, 0x20, 0x85, 0xa0, 0x1680, 0x2000, 0x2001, 0x2002, 0x2003, 0x2004, 0x2005,
   0x2006, 0x2007, 0x2008, 0x2009, 0x200a, 0x2028, 0x2029, 0x202f, 0x205f, 0x3000]

theorem toNat_mem_blankCodes (blank : isBlank c = true) : c.toNat ∈ blankCodes := by
  simp only [isBlank, Bool.or_eq_true, Bool.and_eq_true, decide_eq_true_eq, beq_iff_eq] at blank
  simp only [blankCodes, List.mem_cons, List.not_mem_nil, or_false]
  omega

theorem blankCodes_not_isPart : ∀ n ∈ blankCodes, isPart (Char.ofNat n) = false := by decide +kernel

theorem isBlank_of_isPart (part : isPart c = true) : isBlank c = false := by
  refine Bool.eq_false_iff.mpr fun blank => ?_
  have mark := blankCodes_not_isPart c.toNat (toNat_mem_blankCodes blank)
  rw [Char.ofNat_toNat, part] at mark
  cases mark

theorem IsWord.not_blank (word : IsWord cs) : ∀ c ∈ cs, isBlank c = false :=
  fun c member => isBlank_of_isPart (word c member)

theorem IsWord.squeeze (word : IsWord s.toList) : squeeze s = s.toList := by
  refine List.filter_eq_self.mpr fun c member => ?_
  simp [word.not_blank c member]

end Blanks

section Letters

/-- Only the 26 small letters have a capital of their own. -/
theorem toUpper_cases (c : Char) : c.toUpper = c ∨ ∃ n < 26, c = Char.ofNat (97 + n) := by
  by_cases small : 'a'.val ≤ c.val ∧ c.val ≤ 'z'.val
  · have bounds : 97 ≤ c.toNat ∧ c.toNat ≤ 122 := small
    refine .inr ⟨c.toNat - 97, by omega, ?_⟩
    rw [Nat.add_sub_cancel' bounds.1, Char.ofNat_toNat]
  · exact .inl (dif_neg small)

end Letters

section Names

theorem isPart_of_isStart (start : isStart c = true) : isPart c = true := by
  simp only [isStart, Bool.or_eq_true] at start
  rcases start with (letter | underscore) | dollar
  · simp [isPart, isAlphanumeric, letter]
  · simp [isPart, underscore]
  · simp [isPart, dollar]

/-- A name of Java: it begins and goes on like one, and is not a reserved word. -/
structure Legal (name : String) : Prop where
  chars : ∃ first rest, name.toList = first :: rest ∧ isStart first = true ∧ IsWord rest
  free : name ∉ reservedWords

theorem isLegal_iff : isLegal name = true ↔ Legal name := by
  unfold isLegal
  cases chars : name.toList with
  | nil =>
    constructor
    · rintro ⟨⟩
    · rintro ⟨⟨_, _, some, _⟩, _⟩
      rw [chars] at some
      cases some
  | cons first rest =>
    simp only [Bool.and_eq_true, List.all_eq_true, Bool.not_eq_true', List.contains_eq_mem,
      decide_eq_false_iff_not]
    constructor
    · rintro ⟨⟨start, word⟩, free⟩
      exact ⟨⟨first, rest, chars, start, word⟩, free⟩
    · rintro ⟨⟨_, _, same, start, word⟩, free⟩
      obtain ⟨rfl, rfl⟩ := List.cons.inj (chars.symm.trans same)
      exact ⟨⟨start, word⟩, free⟩

theorem Legal.isWord (legal : Legal name) : IsWord name.toList := by
  obtain ⟨first, rest, chars, start, word⟩ := legal.chars
  rw [chars]
  exact List.forall_mem_cons.mpr ⟨isPart_of_isStart start, word⟩

theorem isWord_of_isLegal (legal : isLegal name = true) : IsWord name.toList :=
  (isLegal_iff.mp legal).isWord

theorem Legal.trim_ne_empty (legal : Legal name) : Text.trim name ≠ "" := by
  obtain ⟨first, rest, chars, start, _⟩ := legal.chars
  have visible := isBlank_of_isPart (isPart_of_isStart start)
  have kept : first ∈ (Text.trim name).toList := mem_trim (chars ▸ List.mem_cons_self) visible
  intro empty
  rw [empty] at kept
  cases kept

theorem isPart_toUpper (part : isPart c = true) : isPart c.toUpper = true := by
  have capitals : ∀ n < 26, isPart (Char.ofNat (97 + n)).toUpper = true := by decide
  rcases toUpper_cases c with same | ⟨n, small, rfl⟩
  · rwa [same]
  · exact capitals n small

theorem isWord_snakePart (part : isPart c = true) : IsWord (snakePart c) := by
  intro d member
  unfold snakePart at member
  split at member
  · simp only [List.mem_cons, List.not_mem_nil, or_false] at member
    rcases member with rfl | rfl
    · rfl
    · exact part
  · obtain rfl := List.mem_singleton.mp member
    exact isPart_toUpper part

theorem isWord_upperSnakeChars (word : IsWord cs) : IsWord (upperSnakeChars cs) := by
  cases cs with
  | nil => exact word
  | cons first rest =>
    intro c member
    rcases List.mem_cons.mp member with rfl | later
    · exact isPart_toUpper (word first List.mem_cons_self)
    · obtain ⟨d, among, present⟩ := List.mem_flatMap.mp later
      exact isWord_snakePart (word d (List.mem_cons_of_mem _ among)) c present

/-- The constant of a field is a word like the field's name. -/
theorem isWord_ofField (word : IsWord name.toList) : IsWord (ofField name).toList := by
  rw [ofField, String.toList_append]
  have front : IsWord "FIELD_".toList := List.all_eq_true.mp (by decide)
  refine front.append ?_
  rw [upperSnake, String.toList_ofList]
  exact isWord_upperSnakeChars word

/-- So is its temporary. -/
theorem isWord_temporary (word : IsWord name.toList) : IsWord (temporary name).toList := by
  rw [temporary, String.toList_append]
  have front : IsWord "tmp".toList := List.all_eq_true.mp (by decide)
  refine front.append ?_
  rw [String.toList_ofList]
  cases chars : name.toList with
  | nil => simp [temporaryChars, IsWord]
  | cons first rest =>
    rw [chars] at word
    intro c member
    rcases List.mem_cons.mp member with rfl | later
    · exact isPart_toUpper (word first List.mem_cons_self)
    · exact word c (List.mem_cons_of_mem _ later)

theorem ofField_ne_nil (name : String) : (ofField name).toList ≠ [] := by
  rw [ofField, String.toList_append]
  simp

end Names

end Boilerplate.Identifier
