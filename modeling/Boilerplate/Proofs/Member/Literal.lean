import Boilerplate.Member.Basic
import Boilerplate.Member.Constant
import Boilerplate.Proofs.Identifier
import Boilerplate.Proofs.Text.Blank

/-! Quoted literals of constants. A literal reads back as its value, so different values have
different literals, and it has no blanks at its ends, so a constant recognises its own literal. An
initializer stands for one value, and a constant whose value is a name is matched by the initializers
that stand for it. -/
namespace Boilerplate

namespace Constant

/-- Reads what follows the opening quote of a literal. A quote or a backslash is there only when it is
escaped, but for the closing quote, which ends the text. -/
def unescape? : List Char → Option (List Char)
  | ['"'] => some []
  | '\\' :: '"' :: rest => (unescape? rest).map ('"' :: ·)
  | '\\' :: '\\' :: rest => (unescape? rest).map ('\\' :: ·)
  | c :: rest => if c = '"' ∨ c = '\\' then none else (unescape? rest).map (c :: ·)
  | [] => none

theorem unescape?_cons (plain : c ≠ '"' ∧ c ≠ '\\') (rest : List Char) :
    unescape? (c :: rest) = (unescape? rest).map (c :: ·) := by
  rw [unescape?, if_neg (not_or.mpr plain)]
  · rintro rfl
    exact absurd rfl plain.1
  · rintro _ rfl
    exact absurd rfl plain.2
  · rintro _ rfl
    exact absurd rfl plain.2

/-- However the text goes on, an escaped character is read as it was. -/
theorem unescape?_escape (c : Char) (rest : List Char) :
    unescape? (escape c ++ rest) = (unescape? rest).map (c :: ·) := by
  by_cases quote : c = '"'
  · subst c
    rfl
  · by_cases backslash : c = '\\'
    · subst c
      rfl
    · rw [escape, if_neg quote, if_neg backslash]
      exact unescape?_cons ⟨quote, backslash⟩ rest

theorem unescape?_escaped (value : List Char) :
    unescape? (value.flatMap escape ++ ['"']) = some value := by
  induction value with
  | nil => rfl
  | cons c rest ih => rw [List.flatMap_cons, List.append_assoc, unescape?_escape, ih, Option.map_some]

theorem eq_of_unescape? {cs value : List Char} (read : unescape? cs = some value) :
    cs = value.flatMap escape ++ ['"'] := by
  -- By the reader's own cases: the closing quote, the two escapes, and any other character.
  fun_induction unescape? cs generalizing value with
  | case1 =>
    cases read
    rfl
  | case2 rest ih | case3 rest ih =>
    obtain ⟨more, later, rfl⟩ := Option.map_eq_some_iff.mp read
    rw [ih later]
    rfl
  | case4 c rest => cases read
  | case5 c rest _ _ _ plain ih =>
    obtain ⟨quote, backslash⟩ := not_or.mp plain
    obtain ⟨more, later, rfl⟩ := Option.map_eq_some_iff.mp read
    rw [List.flatMap_cons, escape, if_neg quote, if_neg backslash, ih later]
    rfl
  | case6 => cases read

/-- The value of which the text is the literal. -/
def readLiteral? (text : String) : Option String :=
  match text.toList with
  | '"' :: rest => (unescape? rest).map String.ofList
  | _ => none

theorem readLiteral?_literal (constant : Constant) :
    readLiteral? constant.literal = some constant.value := by
  rw [readLiteral?, literal, String.toList_ofList, literalChars]
  simp only [unescape?_escaped, Option.map_some, String.ofList_toList]

/-- Nothing but literals is read. -/
theorem readLiteral?_eq_some_iff {constant : Constant} {text : String} :
    readLiteral? text = some constant.value ↔ text = constant.literal := by
  constructor
  · intro read
    unfold readLiteral? at read
    split at read
    · next rest opened =>
      obtain ⟨value, inner, same⟩ := Option.map_eq_some_iff.mp read
      rw [literal, literalChars, ← same, String.toList_ofList, ← eq_of_unescape? inner, ← opened,
        String.ofList_toList]
    · cases read
  · rintro rfl
    exact constant.readLiteral?_literal

theorem literal_injective {first second : Constant} (same : first.literal = second.literal) :
    first.value = second.value := by
  have read := first.readLiteral?_literal
  rw [same, second.readLiteral?_literal] at read
  exact (Option.some.inj read).symm

theorem trim_literal (constant : Constant) : Text.trim constant.literal = constant.literal := by
  have enclosed : Text.trimBlanks (literalChars constant.value.toList) =
      literalChars constant.value.toList := Text.trimBlanks_enclosed rfl rfl
  rw [Text.trim, literal, String.toList_ofList, enclosed]

theorem matchesLiteral_literal (constant : Constant) :
    constant.matchesLiteral constant.literal = true := by
  simp [matchesLiteral, trim_literal]

theorem literal_ne_of_isWord {name : String} (word : Identifier.IsWord name.toList)
    (constant : Constant) : constant.literal ≠ name := by
  rintro rfl
  have quote : '"' ∈ constant.literal.toList := by
    rw [literal, String.toList_ofList, literalChars]
    exact List.mem_cons_self
  exact absurd (word _ quote) (by decide)

theorem matchesLiteral_iff {constant : Constant} {initializer : String} :
    constant.matchesLiteral initializer = true ↔
      Text.trim initializer = constant.value ∨ Text.trim initializer = constant.literal := by
  simp [matchesLiteral]

/-- An initializer matches two values only when one of them is the other in quotes, and then there is
one that does. -/
theorem exists_matchesLiteral_iff {first second : Constant} :
    (∃ initializer, first.matchesLiteral initializer = true ∧
        second.matchesLiteral initializer = true) ↔
      first.value = second.value ∨ first.value = second.literal ∨ second.value = first.literal := by
  constructor
  · rintro ⟨initializer, one, other⟩
    rcases matchesLiteral_iff.mp one with bare | quoted
    · rcases matchesLiteral_iff.mp other with bareToo | quotedToo
      · exact .inl (bare.symm.trans bareToo)
      · exact .inr (.inl (bare.symm.trans quotedToo))
    · rcases matchesLiteral_iff.mp other with bareToo | quotedToo
      · exact .inr (.inr (bareToo.symm.trans quoted))
      · exact .inl (literal_injective (quoted.symm.trans quotedToo))
  · rintro (same | quoted | quoted)
    · have literals : first.literal = second.literal := by rw [literal, literal, same]
      exact ⟨first.literal, first.matchesLiteral_literal, literals ▸ second.matchesLiteral_literal⟩
    · refine ⟨second.literal, matchesLiteral_iff.mpr (.inl ?_), second.matchesLiteral_literal⟩
      rw [trim_literal, quoted]
    · refine ⟨first.literal, first.matchesLiteral_literal, matchesLiteral_iff.mpr (.inl ?_)⟩
      rw [trim_literal, quoted]

section Values
variable {constant : Constant} {initializer : String}

/-- The value that an initializer stands for. It is the text itself, unless that is a literal. -/
def initializerValue (initializer : String) : String :=
  (readLiteral? (Text.trim initializer)).getD (Text.trim initializer)

theorem initializerValue_literal (constant : Constant) :
    initializerValue constant.literal = constant.value := by
  rw [initializerValue, trim_literal, readLiteral?_literal, Option.getD_some]

theorem readLiteral?_of_isWord {name : String} (word : Identifier.IsWord name.toList) :
    readLiteral? name = none := by
  refine Option.eq_none_iff_forall_ne_some.mpr fun value read => ?_
  have quoted : name = literal ⟨name, value, none⟩ := readLiteral?_eq_some_iff.mp read
  exact literal_ne_of_isWord word _ quoted.symm

/-- A name is matched by the initializers that stand for it. -/
theorem matchesLiteral_iff_initializerValue (word : Identifier.IsWord constant.value.toList) :
    constant.matchesLiteral initializer = true ↔ initializerValue initializer = constant.value := by
  rw [matchesLiteral_iff, initializerValue]
  cases read : readLiteral? (Text.trim initializer) with
  | none =>
    rw [Option.getD_none]
    refine ⟨fun found => found.resolve_right fun quoted => ?_, .inl⟩
    rw [quoted, readLiteral?_literal] at read
    cases read
  | some value =>
    rw [Option.getD_some]
    constructor
    · rintro (bare | quoted)
      · rw [bare, readLiteral?_of_isWord word] at read
        cases read
      · rw [quoted, readLiteral?_literal] at read
        exact (Option.some.inj read).symm
    · rintro rfl
      exact .inr (readLiteral?_eq_some_iff.mp read)

/-- No initializer is matched by two different names. -/
theorem not_matchesLiteral_both {first second : Constant} (word : Identifier.IsWord first.value.toList)
    (wordToo : Identifier.IsWord second.value.toList) (differ : first.value ≠ second.value)
    (initializer : String) :
    ¬ (first.matchesLiteral initializer = true ∧ second.matchesLiteral initializer = true) := by
  rintro ⟨one, other⟩
  rw [matchesLiteral_iff_initializerValue word] at one
  rw [matchesLiteral_iff_initializerValue wordToo] at other
  exact differ (one.symm.trans other)

/-- A value without quotes recognises the literals of its own constants only. -/
theorem value_eq_of_matchesLiteral {constant merged : Constant}
    (word : Identifier.IsWord constant.value.toList)
    (same : constant.matchesLiteral merged.literal = true) : merged.value = constant.value := by
  rwa [matchesLiteral_iff_initializerValue word, initializerValue_literal] at same

end Values

def holds (constant : Constant) (declaration : Declaration) : Bool :=
  declaration.identifier == constant.identifier && declaration.literal.any constant.matchesLiteral

theorem holds_literal (constant : Constant) (text : Option String) :
    constant.holds ⟨constant.identifier, some constant.literal, text⟩ = true := by
  simp [holds, matchesLiteral_literal]

end Constant

/-- The value that a field is declared with. -/
def Declaration.value? (declaration : Declaration) : Option String :=
  declaration.literal.map Constant.initializerValue

theorem Constant.holds_iff_value? {constant : Constant} {declaration : Declaration}
    (word : Identifier.IsWord constant.value.toList) : constant.holds declaration = true ↔
      declaration.identifier = constant.identifier ∧ declaration.value? = some constant.value := by
  rw [holds, Bool.and_eq_true, beq_iff_eq, Declaration.value?]
  cases declaration.literal with
  | none => simp
  | some initializer =>
    rw [Option.any_some, matchesLiteral_iff_initializerValue word, Option.map_some, Option.some.injEq]

end Boilerplate
