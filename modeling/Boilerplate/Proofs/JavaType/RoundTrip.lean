import Boilerplate.Proofs.JavaType.Recognition

/-! The canonical text of a legal type derives that type, so it is read as that type again. Names in it
end where a bracket or comma stands, at every depth, and no name in it stands for a longer one. -/
namespace Boilerplate.JavaType
open Text

section Pieces
variable {name : String} {rest : List Char}

theorem IsName.isPath (legal : IsName name) : IsPath name.toList :=
  isPath_iff.mpr ⟨legal.nonempty, legal.characters, legal.dotted⟩

theorem IsName.qualify (legal : IsName name) : qualify (String.ofList name.toList) = name := by
  rw [String.ofList_toList, JavaType.qualify, legal.qualified]
  rfl

theorem blanks_nil : Blanks [] := List.forall_mem_nil _

theorem IsName.takes (legal : IsName name) (ends : EndsPath rest) :
    TakesName (name.toList ++ rest) name.toList rest :=
  @TakesName.intro [] _ [] rest blanks_nil legal.isPath ends blanks_nil

theorem takesBrackets_brackets (depth : Nat) (rest : List Char) :
    TakesBrackets (brackets depth ++ rest) depth rest := by
  induction depth with
  | zero => exact .none
  | succ depth ih => exact .pair blanks_nil ih

theorem endsPath_mark {c : Char} (mark : isNameCharacter c = false) (rest : List Char) :
    EndsPath (c :: rest) := by
  intro d first
  obtain rfl : c = d := by simpa using first
  exact mark

theorem endsPath_brackets (ends : EndsType rest) (depth : Nat) :
    EndsPath (brackets depth ++ rest) := by
  cases depth with
  | zero =>
    intro c first
    rcases ends c first with rfl | rfl
    · decide
    · decide
  | succ depth => exact endsPath_mark (by decide) _

end Pieces

section Types
variable {type : JavaType}

/-- The type is derived from its characters, whatever follows that ends it. -/
def SpellsItself (type : JavaType) : Prop :=
  ∀ rest, EndsType rest → Spells (type.chars ++ rest) type rest

theorem spellsArguments_chars {first : JavaType} {more : List JavaType}
    (each : ∀ argument ∈ first :: more, SpellsItself argument) (rest : List Char) :
    SpellsArguments (first.chars ++ (moreArgumentChars more ++ rest)) (first :: more) rest := by
  have own := each first List.mem_cons_self
  induction more generalizing first with
  | nil =>
    have inner := own ('>' :: rest) (endsType_cons (.inr rfl) _)
    exact @SpellsArguments.last _ [] _ _ inner blanks_nil
  | cons next others ih =>
    have later : ∀ argument ∈ next :: others, SpellsItself argument := fun argument member =>
      each argument (List.mem_cons_of_mem _ member)
    have inner := own (',' :: (next.chars ++ (moreArgumentChars others ++ rest)))
      (endsType_cons (.inl rfl) _)
    rw [moreArgumentChars, List.cons_append, List.append_assoc]
    exact @SpellsArguments.next _ [] _ _ _ _ inner blanks_nil (ih later (later next List.mem_cons_self))

theorem Legal.spellsItself (legal : Legal type) : SpellsItself type := by
  induction legal with
  | intro name _ ih =>
    rename_i base arguments depth _
    intro rest ends
    cases arguments with
    | nil =>
      have spelled := Spells.plain (name.takes (endsPath_brackets ends depth))
        (takesBrackets_brackets depth rest)
      rw [name.qualify] at spelled
      rwa [chars, argumentChars, List.nil_append, List.append_assoc]
    | cons first more =>
      have inside := spellsArguments_chars ih (brackets depth ++ rest)
      have spelled := Spells.applied (name.takes (endsPath_mark (by decide) _)) inside
        (takesBrackets_brackets depth rest)
      rw [name.qualify] at spelled
      simpa only [chars, argumentChars, List.append_assoc, List.cons_append] using spelled

theorem parse_text (legal : Legal type) : parse type.text = .ok type := by
  have spelled := legal.spellsItself [] endsType_nil
  rw [List.append_nil] at spelled
  refine parse_eq_ok_iff.mpr ⟨[], blanks_nil, ?_⟩
  rwa [text, String.toList_ofList]

/-- Reading what was read adds nothing. -/
theorem parse_text_of_parse {text : String} (read : parse text = .ok type) :
    parse type.text = .ok type :=
  parse_text (parse_legal read)

theorem text_injective {other : JavaType} (legal : Legal type) (legalToo : Legal other)
    (same : type.text = other.text) : type = other := by
  have read := parse_text legal
  rw [same, parse_text legalToo] at read
  exact (Except.ok.inj read).symm

/-- Legal types and their texts correspond, and what is read is legal: reading a text twice, with its
canonical form in between, is reading it once, and the canonical form tells types apart. -/
theorem text_inverts_parse :
    (∀ type, Legal type → parse type.text = .ok type) ∧
      (∀ raw type, parse raw = .ok type → Legal type) ∧
      (∀ raw, (do parse (← parse raw).text) = parse raw) ∧
      ∀ raw other one two, parse raw = .ok one → parse other = .ok two →
        (one.text = two.text ↔ one = two) := by
  refine ⟨fun type => parse_text, fun raw type => parse_legal, ?_, ?_⟩
  · intro raw
    cases read : parse raw with
    | error cause => rfl
    | ok type => exact parse_text_of_parse read
  · intro raw other one two read readToo
    constructor
    · exact text_injective (parse_legal read) (parse_legal readToo)
    · exact congrArg text

end Types
end Boilerplate.JavaType
