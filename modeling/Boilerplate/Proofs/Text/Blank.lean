import Boilerplate.Text.Blank
import Mathlib.Data.List.DropRight
import Mathlib.Data.List.TakeWhile

/-! Blanks at the ends of a text. Skipping them passes a whole run and stops at the first character
that can be seen, so a text is a run of blanks and what is left of it, and trimming twice is trimming
once. -/
namespace Boilerplate.Text
variable {cs before rest word : List Char} {c : Char}

/-- A run of blanks, which may be empty. -/
def Blanks (cs : List Char) : Prop := ∀ c ∈ cs, isBlank c = true

theorem Blanks.append (first : Blanks before) (second : Blanks rest) : Blanks (before ++ rest) :=
  List.forall_mem_append.mpr ⟨first, second⟩

theorem skipBlanks_append (blanks : Blanks before) (cs : List Char) :
    skipBlanks (before ++ cs) = skipBlanks cs :=
  List.dropWhile_append_of_pos blanks

theorem exists_blanks (cs : List Char) : ∃ before, Blanks before ∧ cs = before ++ skipBlanks cs :=
  ⟨cs.takeWhile isBlank, fun _ member => List.mem_takeWhile_imp member,
    List.takeWhile_append_dropWhile.symm⟩

theorem skipBlanks_eq_nil_iff : skipBlanks cs = [] ↔ Blanks cs := List.dropWhile_eq_nil_iff

theorem skipBlanks_cons (visible : isBlank c = false) : skipBlanks (c :: cs) = c :: cs := by
  simp [skipBlanks, visible]

theorem mem_skipBlanks (member : c ∈ cs) (visible : isBlank c = false) : c ∈ skipBlanks cs := by
  rw [← List.takeWhile_append_dropWhile (p := isBlank) (l := cs)] at member
  rcases List.mem_append.mp member with early | late
  · rw [List.mem_takeWhile_imp early] at visible
    cases visible
  · exact late

theorem skipBlanks_skipBlanks (cs : List Char) : skipBlanks (skipBlanks cs) = skipBlanks cs :=
  List.dropWhile_idempotent _ _

theorem skipBlanks_of_visible (visible : ∀ c ∈ word, isBlank c = false) :
    skipBlanks word = word := by
  cases word with
  | nil => rfl
  | cons first more => exact skipBlanks_cons (visible first List.mem_cons_self)

section Trimming

theorem mem_trim {text : String} (member : c ∈ text.toList) (visible : isBlank c = false) :
    c ∈ (trim text).toList := by
  rw [trim, String.toList_ofList, trimBlanks, List.mem_reverse]
  exact mem_skipBlanks (List.mem_reverse.mpr (mem_skipBlanks member visible)) visible

theorem trimBlanks_enclosed {d : Char} (first : isBlank c = false) (last : isBlank d = false) :
    trimBlanks (c :: (cs ++ [d])) = c :: (cs ++ [d]) := by
  have turned : (c :: (cs ++ [d])).reverse = d :: (cs.reverse ++ [c]) := by simp
  rw [trimBlanks, skipBlanks_cons first, turned, skipBlanks_cons last, ← turned,
    List.reverse_reverse]

theorem trimBlanks_of_word (start : skipBlanks cs = word ++ rest)
    (visible : ∀ c ∈ word, isBlank c = false) (blank : skipBlanks rest = []) :
    trimBlanks cs = word := by
  have blanks : Blanks rest.reverse := fun c member =>
    skipBlanks_eq_nil_iff.mp blank c (List.mem_reverse.mp member)
  have turned : ∀ c ∈ word.reverse, isBlank c = false := fun c member =>
    visible c (List.mem_reverse.mp member)
  rw [trimBlanks, start, List.reverse_append, skipBlanks_append blanks,
    skipBlanks_of_visible turned, List.reverse_reverse]

theorem trimBlanks_eq (cs : List Char) : trimBlanks cs = (skipBlanks cs).rdropWhile isBlank := rfl

theorem trimBlanks_trimBlanks (cs : List Char) : trimBlanks (trimBlanks cs) = trimBlanks cs := by
  have front : skipBlanks (trimBlanks cs) = trimBlanks cs := by
    cases trimmed : trimBlanks cs with
    | nil => rfl
    | cons first more =>
      obtain ⟨rest, split⟩ : first :: more <+: skipBlanks cs := by
        rw [← trimmed]
        exact List.rdropWhile_prefix isBlank _
      have visible := List.head?_dropWhile_not isBlank cs
      rw [show cs.dropWhile isBlank = first :: (more ++ rest) from split.symm] at visible
      exact skipBlanks_cons visible
  rw [trimBlanks_eq (trimBlanks cs), front, trimBlanks_eq, List.rdropWhile_idempotent]

theorem trim_trim (s : String) : trim (trim s) = trim s := by
  rw [trim, trim, String.toList_ofList, trimBlanks_trimBlanks]

end Trimming
end Boilerplate.Text
