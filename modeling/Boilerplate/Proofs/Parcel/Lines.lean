import Boilerplate.Parcel.Transfer
import Boilerplate.Proofs.Identifier
import Boilerplate.Proofs.JavaType.Reading

/-! Lines of parcel code. Names of fields and types go into the code as they are. None of them holds
a call or a line break, so a statement is one line and makes the calls of its tree and no others. -/
namespace Boilerplate.Parcel

namespace Expr

mutual
/-- All texts in an expression: its words and the names of fields, methods and types. -/
def names : Expr → List String
  | word text => [text]
  | this field => [field]
  | call receiver method arguments => receiver.names ++ method :: argumentNames arguments
  | new type arguments => type :: argumentNames arguments
  | cast type value => type :: value.names
  | equal left right => left.names ++ right.names
  | unequal left right => left.names ++ right.names
  | choose condition first second => condition.names ++ (first.names ++ second.names)
  | item array index => array.names ++ index.names

def argumentNames : List Expr → List String
  | [] => []
  | first :: more => first.names ++ argumentNames more
end

end Expr

def Statement.names : Statement → List String
  | run value => value.names
  | declare type name value => type :: name :: value.names
  | assign field value => field :: value.names

/-- Nothing in the text is a call, and the text does not leave its line. -/
def Silent (text : String) : Prop := ∀ c ∈ text.toList, c ≠ '(' ∧ c ≠ '\n'

instance : DecidablePred Silent := fun text =>
  List.decidableBAll (fun c => c ≠ '(' ∧ c ≠ '\n') text.toList

section Silence

theorem silent_append_iff : Silent (s ++ t) ↔ Silent s ∧ Silent t := by
  unfold Silent
  rw [String.toList_append, List.forall_mem_append]

/-- No character that passes the test is one that is heard. -/
theorem silent_of_characters {test : Char → Bool} (call : test '(' = false) (line : test '\n' = false)
    (each : ∀ c ∈ s.toList, test c = true) : Silent s := by
  intro c member
  have passes := each c member
  constructor
  · rintro rfl
    rw [call] at passes
    cases passes
  · rintro rfl
    rw [line] at passes
    cases passes

theorem silent_of_typeCharacters (each : ∀ c ∈ s.toList, JavaType.isTypeCharacter c = true) :
    Silent s :=
  silent_of_characters (by decide) (by decide) each

theorem silent_of_name (name : JavaType.IsName s) : Silent s :=
  silent_of_characters (by decide) (by decide) name.characters

theorem silent_of_word (word : Identifier.IsWord s.toList) : Silent s :=
  silent_of_characters (by decide) (by decide) word

end Silence

section OneLine

theorem Silent.oneLine (silent : Silent s) : '\n' ∉ s.toList := fun line => (silent _ line).2 rfl

mutual
/-- A value of silent names stays on its line. -/
theorem text_oneLine :
    ∀ value : Expr, (∀ name ∈ value.names, Silent name) → '\n' ∉ value.text.toList
  | .word text, silent => by
    have own := (silent text (by simp [Expr.names])).oneLine
    simpa [Expr.text] using own
  | .this field, silent => by
    have own := (silent field (by simp [Expr.names])).oneLine
    simpa [Expr.text] using own
  | .call receiver method arguments, silent => by
    simp only [Expr.names, List.forall_mem_append, List.forall_mem_cons] at silent
    simp [Expr.text, text_oneLine receiver silent.1, silent.2.1.oneLine,
      argumentText_oneLine arguments silent.2.2]
  | .new type arguments, silent => by
    simp only [Expr.names, List.forall_mem_cons] at silent
    simp [Expr.text, silent.1.oneLine, argumentText_oneLine arguments silent.2]
  | .cast type value, silent => by
    simp only [Expr.names, List.forall_mem_cons] at silent
    simp [Expr.text, silent.1.oneLine, text_oneLine value silent.2]
  | .equal left right, silent => by
    simp only [Expr.names, List.forall_mem_append] at silent
    simp [Expr.text, text_oneLine left silent.1, text_oneLine right silent.2]
  | .unequal left right, silent => by
    simp only [Expr.names, List.forall_mem_append] at silent
    simp [Expr.text, text_oneLine left silent.1, text_oneLine right silent.2]
  | .choose condition first second, silent => by
    simp only [Expr.names, List.forall_mem_append] at silent
    simp [Expr.text, text_oneLine condition silent.1, text_oneLine first silent.2.1,
      text_oneLine second silent.2.2]
  | .item array index, silent => by
    simp only [Expr.names, List.forall_mem_append] at silent
    simp [Expr.text, text_oneLine array silent.1, text_oneLine index silent.2]

theorem argumentText_oneLine : ∀ arguments : List Expr,
    (∀ name ∈ Expr.argumentNames arguments, Silent name) →
      '\n' ∉ (Expr.argumentText arguments).toList
  | [], _ => by simp [Expr.argumentText]
  | [last], silent => by
    simp only [Expr.argumentNames, List.append_nil] at silent
    exact text_oneLine last silent
  | first :: second :: more, silent => by
    rw [Expr.argumentNames, List.forall_mem_append] at silent
    simp [Expr.argumentText, text_oneLine first silent.1,
      argumentText_oneLine (second :: more) silent.2]
end

theorem statement_oneLine (statement : Statement) (silent : ∀ name ∈ statement.names, Silent name) :
    '\n' ∉ statement.text.toList := by
  cases statement with
  | run value =>
    have own := text_oneLine value silent
    simpa [Statement.text] using own
  | declare type name value =>
    simp only [Statement.names, List.forall_mem_cons] at silent
    simp [Statement.text, silent.1.oneLine, silent.2.1.oneLine, text_oneLine value silent.2.2]
  | assign field value =>
    simp only [Statement.names, List.forall_mem_cons] at silent
    simp [Statement.text, silent.1.oneLine, text_oneLine value silent.2]

/-- The lines of the code for a field are its statements. -/
theorem splitOn_joinLines {statements : List Statement} (some : statements ≠ [])
    (silent : ∀ statement ∈ statements, ∀ name ∈ statement.names, Silent name) :
    (joinLines statements).toList.splitOn '\n' = statements.map fun statement => statement.text.toList := by
  rw [joinLines, String.toList_intercalate, List.map_map, show "\n".toList = ['\n'] from rfl]
  refine List.splitOn_intercalate '\n' ?_ (by simpa using some)
  intro line member
  obtain ⟨statement, among, rfl⟩ := List.mem_map.mp member
  exact statement_oneLine statement (silent statement among)

end OneLine

end Boilerplate.Parcel
