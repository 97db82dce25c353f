import Boilerplate.JavaType.Parser
import Boilerplate.Proofs.DataClass.Validation

/-! What reading a type gives. Every name in the tree is a qualified name of name characters, so the
text of a type has no other characters than those of names and the brackets and commas between them. -/
namespace Boilerplate.JavaType
open Text

/-- A name as types have it: between its dots no part is empty, and it stands for no longer name. -/
structure IsName (name : String) : Prop where
  nonempty : name.toList ≠ []
  characters : ∀ c ∈ name.toList, isNameCharacter c = true
  dotted : isWellDotted name.toList = true
  qualified : qualified? name = none

/-- All names in a type are names as types have them. -/
inductive Legal : JavaType → Prop where
  | intro {base : String} {arguments : List JavaType} {depth : Nat} : IsName base →
      (∀ argument ∈ arguments, Legal argument) → Legal ⟨base, arguments, depth⟩

section Names

theorem simpleNames_isName : ∀ entry ∈ simpleNames, IsName entry.2 := by
  have each : ∀ entry ∈ simpleNames, entry.2.toList ≠ [] ∧
      entry.2.toList.all isNameCharacter = true ∧ isWellDotted entry.2.toList = true ∧
        qualified? entry.2 = none := by
    decide +kernel
  intro entry member
  obtain ⟨nonempty, characters, dotted, qualified⟩ := each entry member
  exact ⟨nonempty, List.all_eq_true.mp characters, dotted, qualified⟩

theorem mem_of_lookup [BEq α] [LawfulBEq α] {table : List (α × β)}
    (found : table.lookup key = some value) : (key, value) ∈ table := by
  obtain ⟨before, after, rfl, _⟩ := List.lookup_eq_some_iff.mp found
  simp

theorem qualify_isName (nonempty : name.toList ≠ [])
    (characters : ∀ c ∈ name.toList, isNameCharacter c = true)
    (dotted : isWellDotted name.toList = true) : IsName (qualify name) := by
  unfold qualify
  cases known : qualified? name with
  | none => exact ⟨nonempty, characters, dotted, known⟩
  | some long => exact simpleNames_isName _ (mem_of_lookup known)

theorem object_legal : Legal object := by
  refine .intro (qualify_isName (by decide) (List.all_eq_true.mp ?_) (by decide)) (by simp)
  decide +kernel

end Names

section Steps
variable {fuel : Nat} {cs rest : List Char} {type : JavaType} {arguments : List JavaType}

/-- All that reading a type can do at the front of a text. -/
theorem readType_cases (read : readType (fuel + 1) cs = .ok (type, rest)) :
    (∃ tail bound, skipBlanks cs = '?' :: tail ∧ bound? (skipBlanks tail) = some bound ∧
      readType fuel bound = .ok (type, rest)) ∨
    (∃ tail, skipBlanks cs = '?' :: tail ∧ bound? (skipBlanks tail) = none ∧
      type = object ∧ rest = skipBlanks tail) ∨
    ∃ name arguments after, name = (skipBlanks cs).takeWhile isNameCharacter ∧ name ≠ [] ∧
      isWellDotted name = true ∧
      type = ⟨qualify (String.ofList name), arguments, (takeBrackets after).1⟩ ∧
      rest = (takeBrackets after).2 ∧
      ((∃ inner, skipBlanks ((skipBlanks cs).dropWhile isNameCharacter) = '<' :: inner ∧
          readArguments fuel inner = .ok (arguments, after)) ∨
        arguments = [] ∧ after = skipBlanks ((skipBlanks cs).dropWhile isNameCharacter) ∧
          ∀ inner, after ≠ '<' :: inner) := by
  rw [readType] at read
  split at read
  · rename_i tail wild
    split at read
    · rename_i bound found
      exact .inl ⟨tail, bound, wild, found, read⟩
    · rename_i none
      cases read
      exact .inr (.inl ⟨tail, wild, none, rfl, rfl⟩)
  · rename_i other
    dsimp only at read
    split at read
    · cases read
    · rename_i nonempty
      split at read
      · cases read
      · rename_i dotted
        refine .inr (.inr ?_)
        split at read
        · rename_i inner opened
          obtain ⟨⟨arguments, after⟩, inside, same⟩ := bind_eq_ok_iff.mp read
          cases same
          exact ⟨_, arguments, after, rfl, by simpa using nonempty, by simpa using dotted, rfl, rfl,
            .inl ⟨inner, opened, inside⟩⟩
        · rename_i closed
          cases read
          exact ⟨_, [], _, rfl, by simpa using nonempty, by simpa using dotted, rfl, rfl,
            .inr ⟨rfl, rfl, closed⟩⟩

/-- All that reading type arguments can do. -/
theorem readArguments_cases (read : readArguments (fuel + 1) cs = .ok (arguments, rest)) :
    ∃ first more middle, arguments = first :: more ∧ readType fuel cs = .ok (first, middle) ∧
      ((∃ tail, skipBlanks middle = ',' :: tail ∧ readArguments fuel tail = .ok (more, rest)) ∨
        more = [] ∧ skipBlanks middle = '>' :: rest) := by
  rw [readArguments] at read
  obtain ⟨⟨first, middle⟩, here, others⟩ := bind_eq_ok_iff.mp read
  dsimp only at others
  split at others
  · rename_i tail comma
    obtain ⟨⟨more, left⟩, inside, same⟩ := bind_eq_ok_iff.mp others
    cases same
    exact ⟨first, more, middle, rfl, here, .inl ⟨tail, comma, inside⟩⟩
  · rename_i tail closed
    cases others
    exact ⟨first, [], middle, rfl, here, .inr ⟨rfl, closed⟩⟩
  · cases others

end Steps

/-- What is read is legal, with any fuel. -/
theorem read_legal (fuel : Nat) :
    (∀ {cs type rest}, readType fuel cs = .ok (type, rest) → Legal type) ∧
      ∀ {cs arguments rest}, readArguments fuel cs = .ok (arguments, rest) →
        ∀ argument ∈ arguments, Legal argument := by
  induction fuel with
  | zero =>
    constructor
    · intro cs type rest read
      cases read
    · intro cs arguments rest read
      cases read
  | succ fuel ih =>
    obtain ⟨types, lists⟩ := ih
    constructor
    · intro cs type rest read
      rcases readType_cases read with ⟨_, _, _, _, bound⟩ | ⟨_, _, _, rfl, _⟩ |
        ⟨name, arguments, after, rfl, nonempty, dotted, rfl, _, inside⟩
      · exact types bound
      · exact object_legal
      · refine .intro (qualify_isName ?_ ?_ ?_) ?_
        · rwa [String.toList_ofList]
        · intro c member
          rw [String.toList_ofList] at member
          exact List.all_eq_true.mp List.all_takeWhile c member
        · rwa [String.toList_ofList]
        · rcases inside with ⟨_, _, read⟩ | ⟨rfl, _⟩
          · exact lists read
          · simp
    · intro cs arguments rest read
      obtain ⟨first, more, _, rfl, here, others⟩ := readArguments_cases read
      intro argument member
      rcases List.mem_cons.mp member with rfl | later
      · exact types here
      · rcases others with ⟨_, _, inside⟩ | ⟨rfl, _⟩
        · exact lists inside argument later
        · cases later

/-- A text is read when nothing but blanks is left of it. -/
theorem parse_eq_ok_iff_readType {text : String} : parse text = .ok type ↔ ∃ rest,
    readType (2 * text.toList.length + 2) text.toList = .ok (type, rest) ∧ skipBlanks rest = [] := by
  rw [parse, mapError_eq_ok_iff, readAll, bind_eq_ok_iff]
  constructor
  · rintro ⟨⟨_, rest⟩, inside, others⟩
    dsimp only at others
    split at others
    · rename_i ended
      cases others
      exact ⟨rest, inside, ended⟩
    · cases others
  · rintro ⟨rest, inside, ended⟩
    refine ⟨(type, rest), inside, ?_⟩
    dsimp only
    rw [ended]
    rfl

theorem parse_legal {text : String} (read : parse text = .ok type) : Legal type := by
  obtain ⟨_, inside, _⟩ := parse_eq_ok_iff_readType.mp read
  exact (read_legal _).1 inside

section Characters

/-- A character that a type's text may have. -/
def isTypeCharacter (c : Char) : Bool :=
  isNameCharacter c || ['<', '>', ',', '[', ']'].contains c

theorem mem_brackets (member : c ∈ brackets depth) : isTypeCharacter c = true := by
  induction depth with
  | zero => cases member
  | succ depth ih =>
    rcases List.mem_cons.mp member with rfl | later
    · rfl
    · rcases List.mem_cons.mp later with rfl | later
      · rfl
      · exact ih later

theorem mem_moreArgumentChars {arguments : List JavaType}
    (each : ∀ argument ∈ arguments, ∀ c ∈ argument.chars, isTypeCharacter c = true)
    (member : c ∈ moreArgumentChars arguments) : isTypeCharacter c = true := by
  induction arguments with
  | nil =>
    obtain rfl := List.mem_singleton.mp member
    rfl
  | cons first more ih =>
    rw [moreArgumentChars] at member
    rcases List.mem_cons.mp member with rfl | later
    · rfl
    · rcases List.mem_append.mp later with own | others
      · exact each first List.mem_cons_self c own
      · exact ih (fun argument among => each argument (List.mem_cons_of_mem _ among)) others

theorem Legal.mem_chars {type : JavaType} (legal : Legal type) :
    ∀ c ∈ type.chars, isTypeCharacter c = true := by
  induction legal with
  | intro name _ ih =>
    rename_i base arguments depth _
    intro c member
    rw [chars] at member
    rcases List.mem_append.mp member with own | later
    · simp [isTypeCharacter, name.characters c own]
    · rcases List.mem_append.mp later with inside | last
      · cases arguments with
        | nil => cases inside
        | cons first more =>
          rw [argumentChars] at inside
          rcases List.mem_cons.mp inside with rfl | inside
          · rfl
          · rcases List.mem_append.mp inside with own | others
            · exact ih first List.mem_cons_self c own
            · exact mem_moreArgumentChars
                (fun argument among => ih argument (List.mem_cons_of_mem _ among)) others
      · exact mem_brackets last

theorem Legal.mem_text {type : JavaType} (legal : Legal type) :
    ∀ c ∈ type.text.toList, isTypeCharacter c = true := by
  rw [text, String.toList_ofList]
  exact legal.mem_chars

theorem Legal.mem_erasure {type : JavaType} (legal : Legal type) :
    ∀ c ∈ type.erasure.toList, isTypeCharacter c = true := by
  intro c member
  cases legal with
  | intro name _ =>
    rw [erasure, String.toList_append, String.toList_ofList] at member
    rcases List.mem_append.mp member with own | last
    · simp [isTypeCharacter, name.characters c own]
    · exact mem_brackets last

theorem Legal.base {type : JavaType} (legal : Legal type) : IsName type.base := by
  cases legal with
  | intro name _ => exact name

theorem Legal.argumentOrObject {type : JavaType} (legal : Legal type) (index : Nat) :
    Legal (type.argumentOrObject index) := by
  unfold JavaType.argumentOrObject argument?
  cases found : type.arguments[index]? with
  | none => exact object_legal
  | some argument =>
    cases legal with
    | intro _ arguments => exact arguments argument (List.mem_of_getElem? found)

end Characters
end Boilerplate.JavaType
