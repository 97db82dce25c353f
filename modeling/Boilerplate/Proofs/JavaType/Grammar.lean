import Boilerplate.JavaType.Parser
import Boilerplate.Proofs.Text.Blank

/-! The grammar of types. A judgment says that a text begins with a type that denotes a tree, and what
follows it. The characters that follow are part of the judgment, so that no derivation cuts a name
short or takes a wildcard with a bound for one without. -/
namespace Boilerplate.JavaType
open Text

/-- A name as it may be written: parts of name characters with single dots between them. -/
structure IsPath (name : List Char) : Prop where
  nonempty : name ≠ []
  characters : ∀ c ∈ name, isNameCharacter c = true
  first : name.head? ≠ some '.'
  last : name.getLast? ≠ some '.'
  apart : ¬['.', '.'] <:+: name

/-- No name goes on into this text. -/
def EndsPath (rest : List Char) : Prop :=
  ∀ c, rest.head? = some c → isNameCharacter c = false

/-- A name that nothing goes on, and the blanks around it. -/
inductive TakesName : List Char → List Char → List Char → Prop
  | intro {before name after rest : List Char} : Blanks before → IsPath name →
      EndsPath (after ++ rest) → Blanks after →
      TakesName (before ++ (name ++ (after ++ rest))) name rest

/-- A keyword, the blanks that may stand before it and those that must stand behind it. -/
inductive TakesKeyword : List Char → List Char → Prop
  | intro {before gap rest : List Char} {keyword : String} : Blanks before →
      keyword = "extends" ∨ keyword = "super" → Blanks gap → gap ≠ [] →
      TakesKeyword (before ++ (keyword.toList ++ (gap ++ rest))) rest

/-- Pairs of brackets, each behind blanks. -/
inductive TakesBrackets : List Char → Nat → List Char → Prop
  | none {rest : List Char} : TakesBrackets rest 0 rest
  | pair {blanks more rest : List Char} {depth : Nat} : Blanks blanks →
      TakesBrackets more depth rest → TakesBrackets (blanks ++ '[' :: ']' :: more) (depth + 1) rest

mutual
/-- The text begins with a type that denotes this one. A question mark that a keyword follows takes
its bound. -/
inductive Spells : List Char → JavaType → List Char → Prop
  | unbounded {before after rest : List Char} : Blanks before → Blanks after →
      (∀ bound, ¬TakesKeyword (after ++ rest) bound) →
      Spells (before ++ '?' :: (after ++ rest)) object rest
  | bounded {before more bound rest : List Char} {type : JavaType} : Blanks before →
      TakesKeyword more bound → Spells bound type rest → Spells (before ++ '?' :: more) type rest
  | plain {cs name after rest : List Char} {depth : Nat} : TakesName cs name after →
      TakesBrackets after depth rest →
      Spells cs ⟨qualify (String.ofList name), [], depth⟩ rest
  | applied {cs name inside after rest : List Char} {arguments : List JavaType} {depth : Nat} :
      TakesName cs name ('<' :: inside) → SpellsArguments inside arguments after →
      TakesBrackets after depth rest →
      Spells cs ⟨qualify (String.ofList name), arguments, depth⟩ rest

/-- The text begins with one type or more, commas between them and the closing bracket behind. -/
inductive SpellsArguments : List Char → List JavaType → List Char → Prop
  | last {cs blanks rest : List Char} {type : JavaType} :
      Spells cs type (blanks ++ '>' :: rest) → Blanks blanks → SpellsArguments cs [type] rest
  | next {cs blanks more rest : List Char} {type : JavaType} {types : List JavaType} :
      Spells cs type (blanks ++ ',' :: more) → Blanks blanks → SpellsArguments more types rest →
      SpellsArguments cs (type :: types) rest
end

/-- The whole text is a type that denotes this one, up to the blanks behind it. -/
def Denotes (text : String) (type : JavaType) : Prop :=
  ∃ blanks, Blanks blanks ∧ Spells text.toList type blanks

section Lengths
variable {cs name rest : List Char} {depth : Nat}

theorem TakesName.length_lt (taken : TakesName cs name rest) : rest.length < cs.length := by
  cases taken with
  | intro _ path _ _ =>
    have some := List.length_pos_iff.mpr path.nonempty
    simp only [List.length_append]
    omega

theorem TakesKeyword.length_lt (taken : TakesKeyword cs rest) : rest.length < cs.length := by
  cases taken with
  | intro _ _ _ gap =>
    have some := List.length_pos_iff.mpr gap
    simp only [List.length_append]
    omega

theorem TakesBrackets.length_le (taken : TakesBrackets cs depth rest) :
    rest.length ≤ cs.length := by
  induction taken with
  | none => exact Nat.le_refl _
  | pair _ _ ih =>
    simp only [List.length_append, List.length_cons]
    omega

mutual
/-- A type has a character of its own. -/
theorem Spells.length_lt : ∀ {cs type rest}, Spells cs type rest → rest.length < cs.length
  | _, _, _, .unbounded _ _ _ => by
    simp only [List.length_append, List.length_cons]
    omega
  | _, _, _, .bounded _ keyword bound => by
    have first := keyword.length_lt
    have second := bound.length_lt
    simp only [List.length_append, List.length_cons]
    omega
  | _, _, _, .plain name brackets => Nat.lt_of_le_of_lt brackets.length_le name.length_lt
  | _, _, _, .applied name inside brackets => by
    have first := name.length_lt
    have second := inside.length_lt
    have third := brackets.length_le
    rw [List.length_cons] at first
    omega

theorem SpellsArguments.length_lt :
    ∀ {cs types rest}, SpellsArguments cs types rest → rest.length < cs.length
  | _, _, _, .last only _ => by
    have first := only.length_lt
    simp only [List.length_append, List.length_cons] at first
    omega
  | _, _, _, .next own _ others => by
    have first := own.length_lt
    have second := others.length_lt
    simp only [List.length_append, List.length_cons] at first
    omega
end

end Lengths

section Ends
variable {cs before rest : List Char} {c : Char} {depth : Nat}

/-- What may follow a type: the mark that ends it as an argument, or nothing. -/
def EndsType (rest : List Char) : Prop :=
  ∀ c, rest.head? = some c → c = ',' ∨ c = '>'

theorem endsType_nil : EndsType [] := by
  intro c first
  cases first

theorem endsType_cons (mark : c = ',' ∨ c = '>') (rest : List Char) : EndsType (c :: rest) := by
  intro d first
  obtain rfl : c = d := by simpa using first
  exact mark

/-- The mark that ends an argument is seen behind the blanks before it. -/
theorem skipBlanks_mark (blanks : Blanks before) (mark : c = ',' ∨ c = '>') (rest : List Char) :
    skipBlanks (before ++ c :: rest) = c :: rest := by
  rw [skipBlanks_append blanks]
  rcases mark with rfl | rfl
  · exact skipBlanks_cons (by decide)
  · exact skipBlanks_cons (by decide)

theorem endsType_mark (blanks : Blanks before) (mark : c = ',' ∨ c = '>') (rest : List Char) :
    EndsType (skipBlanks (before ++ c :: rest)) := by
  rw [skipBlanks_mark blanks mark]
  exact endsType_cons mark rest

/-- Neither brackets nor what ends a type opens arguments. -/
theorem TakesBrackets.not_open (taken : TakesBrackets cs depth rest)
    (ends : EndsType (skipBlanks rest)) (inside : List Char) : skipBlanks cs ≠ '<' :: inside := by
  intro opened
  cases taken with
  | none =>
    rcases ends '<' (by rw [opened]; rfl) with same | same
    · cases same
    · cases same
  | pair blanks _ =>
    rw [skipBlanks_append blanks, skipBlanks_cons (by decide)] at opened
    cases opened

end Ends
end Boilerplate.JavaType
