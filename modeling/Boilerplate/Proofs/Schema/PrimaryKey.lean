import Boilerplate.Proofs.Schema.Table
import Boilerplate.Proofs.Text.Blank

/-! The column of the primary key. The statement that creates the table is read as SQL, column by
column, and the clause of each column is compared with the name of its field. -/
namespace Boilerplate
namespace Schema
open Text
open Identifier (IsWord EndsWord endsWord_cons isPart sameButCase)

section Reading

/-- A column's name, a blank and its clause, with or without blanks around. -/
def readDefinition? (cs : List Char) : Option Definition := do
  let (name, rest) := takeName (String.ofList (skipBlanks cs))
  return ⟨name, trim (← after? " " rest)⟩

def readDefinitions? (text : String) : Option (List Definition) :=
  if text == "" then some [] else (text.toList.splitOn ',').mapM readDefinition?

/-- The table and its columns. -/
def readStatement? (sql : String) : Option (String × List Definition) := do
  let (table, rest) := takeName (← after? "CREATE TABLE IF NOT EXISTS " sql)
  let definitions ← readDefinitions? (← before? ");" (← after? " (" rest))
  return (table, definitions)

/-- What a column is read back from. -/
structure Definition.Legible (definition : Definition) : Prop where
  word : IsWord definition.name.toList
  named : definition.name.toList ≠ []
  comma : ',' ∉ definition.clause.toList
  clause : ∀ tail ∈ ["", " "], trim (definition.clause ++ tail) = definition.clause

/-- The last column has a blank behind it. -/
def Definition.text (definition : Definition) (tail : String) : String :=
  definition.name ++ (" " ++ (definition.clause ++ tail))

variable {definition : Definition} {definitions : List Definition}

theorem definitionList_singleton (last : Definition) : definitionList [last] = last.text " " := by
  simp only [definitionList, Definition.text, String.append_assoc]

theorem definitionList_cons_cons (first next : Definition) (more : List Definition) :
    definitionList (first :: next :: more) =
      first.text "" ++ ("," ++ (" " ++ definitionList (next :: more))) := by
  rw [definitionList, Definition.text, show ", " = "," ++ " " from rfl]
  · simp only [String.append_assoc, String.append_empty]
  · rintro ⟨⟩

theorem readDefinition?_text (legible : definition.Legible) (blanks : Blanks gap)
    (among : tail ∈ ["", " "]) :
    readDefinition? (gap ++ (definition.text tail).toList) = some definition := by
  have front : skipBlanks (definition.text tail).toList = (definition.text tail).toList := by
    obtain ⟨first, more, chars⟩ := List.exists_cons_of_ne_nil legible.named
    rw [Definition.text, String.toList_append, chars]
    exact skipBlanks_cons (legible.word.not_blank first (chars ▸ List.mem_cons_self))
  have ends : EndsWord (" " ++ (definition.clause ++ tail)).toList := by
    rw [String.toList_append]
    exact endsWord_cons rfl _
  rw [readDefinition?, skipBlanks_append blanks, front, String.ofList_toList, Definition.text,
    takeName_append legible.word _ ends]
  dsimp only
  rw [after?_append]
  dsimp only [Option.bind_eq_bind, Option.bind_some]
  rw [legible.clause tail among]
  rfl

theorem comma_not_mem_text (legible : definition.Legible) (blanks : Blanks gap)
    (among : tail ∈ ["", " "]) : ',' ∉ gap ++ (definition.text tail).toList := by
  have tails : ∀ tail ∈ ["", " "], ',' ∉ tail.toList := by decide
  rw [Definition.text, String.toList_append, String.toList_append, String.toList_append]
  simp only [List.mem_append, not_or]
  refine ⟨?_, ?_, by decide, legible.comma, tails tail among⟩
  · exact fun member => absurd (blanks ',' member) (by decide)
  · exact fun member => absurd (legible.word ',' member) (by decide)

theorem mapM_splitOn_definitionList (filled : definitions ≠ [])
    (legible : ∀ definition ∈ definitions, definition.Legible) (blanks : Blanks gap) :
    ((gap ++ (definitionList definitions).toList).splitOn ',').mapM readDefinition? =
      some definitions := by
  induction definitions generalizing gap with
  | nil => exact absurd rfl filled
  | cons first more ih =>
    have own := legible first List.mem_cons_self
    have bare : "" ∈ ["", " "] := by decide
    have spaced : " " ∈ ["", " "] := by decide
    cases more with
    | nil =>
      have whole := comma_not_mem_text own blanks spaced
      rw [definitionList_singleton, List.splitOn_eq_singleton whole, List.mapM_cons,
        readDefinition?_text own blanks spaced]
      rfl
    | cons next more =>
      have blank : Blanks [' '] := List.forall_mem_singleton.mpr rfl
      have later := ih (List.cons_ne_nil next more)
        (fun other member => legible other (List.mem_cons_of_mem _ member)) blank
      have whole := comma_not_mem_text own blanks bare
      have split : gap ++ (definitionList (first :: next :: more)).toList =
          (gap ++ (first.text "").toList) ++ ',' :: ([' '] ++ (definitionList (next :: more)).toList) := by
        rw [definitionList_cons_cons]
        simp
      rw [split, List.splitOn_append_cons_self_of_not_mem whole, List.mapM_cons, later,
        readDefinition?_text own blanks bare]
      rfl

theorem readStatement?_createStatement (word : IsWord table.toList)
    (legible : ∀ definition ∈ definitions, definition.Legible) :
    readStatement? (createStatement table definitions) = some (table, definitions) := by
  have shape : createStatement table definitions = "CREATE TABLE IF NOT EXISTS " ++
      (table ++ (" (" ++ (definitionList definitions ++ ");"))) := by
    unfold createStatement
    simp only [String.append_assoc]
  have ends : EndsWord (" (" ++ (definitionList definitions ++ ");")).toList := by
    rw [String.toList_append]
    exact endsWord_cons rfl _
  have columns : readDefinitions? (definitionList definitions) = some definitions := by
    by_cases filled : definitions = []
    · rw [filled]
      rfl
    · have read := mapM_splitOn_definitionList filled legible (List.forall_mem_nil _)
      have visible : definitionList definitions ≠ "" := by
        intro empty
        rw [empty] at read
        cases read
      rw [readDefinitions?, if_neg (by simpa using visible)]
      exact read
  rw [readStatement?, shape, after?_append]
  dsimp only [Option.bind_eq_bind, Option.bind_some]
  rw [takeName_append word _ ends]
  dsimp only
  rw [after?_append]
  dsimp only [Option.bind_some]
  rw [before?_append]
  dsimp only [Option.bind_some]
  rw [columns]
  rfl

theorem Definition.ofField_legible {typed : TypedField}
    (legal : Identifier.isLegal typed.field.name = true) : (ofField typed).Legible := by
  have clauses : ∀ clause ∈ [SqlType.blob.clause, SqlType.integer.clause, SqlType.text.clause,
      primaryKeyClause], ',' ∉ clause.toList ∧ ∀ tail ∈ ["", " "], trim (clause ++ tail) = clause := by
    decide +kernel
  have own : (ofField typed).clause = (Column.ofField typed).clause := rfl
  obtain ⟨comma, trimmed⟩ := clauses _ (Column.ofField_clause typed)
  rw [← own] at comma trimmed
  have named : typed.field.name.toList ≠ [] := by
    intro empty
    rw [Identifier.isLegal, empty] at legal
    cases legal
  exact ⟨Identifier.isWord_of_isLegal legal, named, comma, trimmed⟩

end Reading

section Names

/-- The column of a field is the primary key when the field is named `id` in any case but for a capital
`D`, and else what its type makes of it. -/
structure Definition.KeyedByName (definition : Definition) (field : Field) : Prop where
  name : definition.name = field.name
  key : definition.clause = primaryKeyClause ↔
    sameButCase field.name "id" = true ∧ field.name ∉ ["iD", "ID"]
  typed : definition.clause ≠ primaryKeyClause →
    ∃ type, field.type = .ok type ∧ definition.clause = (SqlType.ofType type).clause

theorem Definition.Declares.keyedByName {definition : Definition} {field : Field}
    (declares : definition.Declares field) : definition.KeyedByName field := by
  have key : definition.clause = primaryKeyClause ↔ field.identifier = "FIELD_ID" := by
    constructor
    · intro clause
      by_contra other
      obtain ⟨type, _, own⟩ := declares.typed other
      exact clause_ne_primaryKeyClause _ (own.symm.trans clause)
    · exact declares.key
  refine ⟨declares.name, ?_, fun other => declares.typed fun same => other (key.mpr same)⟩
  rw [key, ← isPrimaryKey_identifier_iff]
  exact Identifier.isPrimaryKey_ofField_iff_sameButCase

end Names
end Schema

/-- A class whose one field is named in capitals. -/
def DataClass.note : DataClass := ⟨"Note", [⟨"ID", "long", true⟩], false⟩

namespace Generator
open Schema
open Identifier (sameButCase)

/-- The statement for an accepted class has a column for each field, under its name, and the name
decides which one is the primary key. -/
theorem key_by_name (g : Generator) {c : DataClass} (valid : c.validate = .ok ()) :
    ∃ artifacts, g.schemaArtifacts c = .ok artifacts ∧ ∃ sql definitions,
      artifacts.statement? = some sql ∧ readStatement? sql = some (c.name, definitions) ∧
      List.Forall₂ Definition.KeyedByName definitions c.fields := by
  obtain ⟨artifacts, fields, made, typed, statement, declared⟩ := exists_statement g valid
  refine ⟨artifacts, made, _, fields.map Definition.ofField, statement,
    readStatement?_createStatement ?_ ?_, declared.imp fun _ _ declares => declares.keyedByName⟩
  · exact Identifier.isWord_of_isLegal (DataClass.isLegal_name valid)
  · intro definition member
    obtain ⟨field, among, rfl⟩ := List.mem_map.mp member
    exact Definition.ofField_legible (DataClass.isLegal_of_typedFields valid typed field among)

theorem key_by_name_account : DataClass.account.validate = .ok () ∧
    ∃ artifacts,
      Generator.schemaArtifacts ⟨.ofRegistry .empty, ⟨"TAG", "check"⟩⟩ .account = .ok artifacts ∧
      ∃ sql definitions, artifacts.statement? = some sql ∧
        readStatement? sql = some (DataClass.account.name, definitions) ∧
        List.Forall₂ Definition.KeyedByName definitions DataClass.account.fields :=
  ⟨DataClass.account_valid, key_by_name _ DataClass.account_valid⟩

/-- A field named in capitals gets the clause of its type. -/
theorem capitals_no_key : DataClass.note.validate = .ok () ∧ sameButCase "ID" "id" = true ∧
    ∃ artifacts,
      Generator.schemaArtifacts ⟨.ofRegistry .empty, ⟨"TAG", "check"⟩⟩ .note = .ok artifacts ∧
      ∃ sql, artifacts.statement? = some sql ∧
        readStatement? sql = some ("Note", [⟨"ID", "INTEGER DEFAULT 0"⟩]) := by
  have valid : DataClass.note.validate = .ok () := by rfl
  have typed : DataClass.note.typedFields = .ok [⟨⟨"ID", "long", true⟩, ⟨"long", [], 0⟩⟩] := by rfl
  have statement := statement?_artifacts ⟨"TAG", "check"⟩ valid typed
  refine ⟨valid, ?_, _, schemaArtifacts_eq_ok_iff.mpr ⟨valid, _, typed, rfl⟩, _, statement, ?_⟩
  · rfl
  · decide +kernel

end Generator
end Boilerplate
