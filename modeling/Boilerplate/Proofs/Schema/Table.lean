import Boilerplate.Proofs.Identifier.Key
import Boilerplate.Proofs.Schema.Columns
import Boilerplate.Proofs.Schema.Concatenation

/-! The statement that creates the table, as the database gets it. The generated text is a
concatenation over names of constants; it is read operand by operand, the names are replaced by what
the constants hold, and the outcome is one statement of SQL with a column for each field. -/
namespace Boilerplate
namespace Schema
open Concatenation
open Text (after? after?_append)
open Identifier (IsWord)

section Text

def readTable (text : String) : Option (List Operand) := do
  read? (← after? "public static final String CREATE_TABLE = " text)

def columnOperands (column : Column) : List Operand :=
  [.name column.identifier, .literal (" " ++ column.clause ++ " ")]

def tableOperands (columns : List Column) : List Operand :=
  .literal "CREATE TABLE IF NOT EXISTS " ::
    ([.name Identifier.table, .literal " ("] ++
      ((punctuated columns).flatMap columnOperands ++ [.literal ");"]))

theorem clauses_plain (member : clause ∈ clauses) : ∀ c ∈ clause.toList, isPlain c = true := by
  have every : clauses.all (fun clause => clause.toList.all isPlain) = true := by decide
  exact List.all_eq_true.mp (List.all_eq_true.mp every clause member)

theorem reads_identifier {identifier : String} (constant : Identifier.OfConstant identifier)
    (word : IsWord identifier.toList) :
    Reads .between identifier [] (.name identifier.toList) := by
  cases constant with
  | table => rfl
  | column name =>
    have chars : (Identifier.ofField name).toList =
        'F' :: ("IELD_".toList ++ (Identifier.upperSnake name).toList) := by
      rw [Identifier.ofField, String.toList_append]
      rfl
    exact reads_name rfl chars word

theorem blanks_succ (n : Nat) : blanks (n + 1) = " " ++ blanks n := by
  apply String.toList_injective
  simp [blanks, List.replicate_succ]

theorem reads_blanks (n : Nat) : Reads .between (blanks n) [] .between := by
  induction n with
  | zero => rfl
  | succ n ih =>
    have blank : Reads .between " " [] .between := rfl
    rw [blanks_succ]
    exact blank.append ih

/-- A name ends at the first blank, of the padding or after it. -/
theorem reads_padding (read : List Char) (n : Nat) :
    Reads (.name read) (blanks n ++ " + \" ") [.operand (.name (String.ofList read)), .plus]
      (.literal [' ']) := by
  cases n with
  | zero => rfl
  | succ n =>
    have ends : Reads (.name read) " " [.operand (.name (String.ofList read))] .between := rfl
    have quote : Reads .between " + \" " [.plus] (.literal [' ']) := rfl
    rw [blanks_succ, String.append_assoc]
    exact ends.append ((reads_blanks n).append quote)

theorem reads_columnLine {column : Column} (row : Row column)
    (constant : Identifier.OfConstant column.identifier) (width : Nat) :
    Reads .between (columnLine width "" column) ((columnOperands column).flatMap continued)
      .between := by
  have front : Reads .between "+ " [.plus] .between := rfl
  have name := reads_identifier constant row.word
  have padding := reads_padding column.identifier.toList (width - column.identifier.length)
  have clause := reads_plain (clauses_plain row.clause) [' ']
  have last : Reads (.literal ([' '] ++ column.clause.toList)) " \"\n"
      [.operand (.literal (String.ofList ([' '] ++ column.clause.toList ++ [' '])))] .between := rfl
  have value : String.ofList ([' '] ++ column.clause.toList ++ [' ']) = " " ++ column.clause ++ " " := by
    apply String.toList_injective
    simp
  have line : columnLine width "" column = "+ " ++ (column.identifier ++
      (blanks (width - column.identifier.length) ++ " + \" " ++ (column.clause ++ " \"\n"))) := by
    simp only [columnLine, padRight, String.append_assoc, String.append_empty]
  have whole := front.append (name.append (padding.append (clause.append last)))
  rw [value, String.ofList_toList] at whole
  rw [line]
  exact whole

theorem readTable_createTable {columns : List Column} (rows : ∀ column ∈ punctuated columns, Row column)
    (constants : ∀ column ∈ punctuated columns, Identifier.OfConstant column.identifier) :
    readTable (createTable columns) = some (tableOperands columns) := by
  have head : Reads .between "\"CREATE TABLE IF NOT EXISTS \"\n+ TABLE\n+ \" (\"\n"
      (.operand (.literal "CREATE TABLE IF NOT EXISTS ") ::
        [.name Identifier.table, .literal " ("].flatMap continued) .between := by decide +kernel
  have lines : Reads .between (columnLines (identifierWidth columns) columns)
      ((punctuated columns).flatMap fun column => (columnOperands column).flatMap continued)
        .between := by
    rw [columnLines_eq]
    exact reads_join fun column member =>
      reads_columnLine (rows column member) (constants column member) _
  have foot : Reads .between "+ \");\";\n" ([.literal ");"].flatMap continued ++ [.semicolon])
      .between := by decide +kernel
  have whole := (head.append (lines.append foot)).read?
  have body : createTable columns = "public static final String CREATE_TABLE = " ++
      ("\"CREATE TABLE IF NOT EXISTS \"\n+ TABLE\n+ \" (\"\n" ++
        (columnLines (identifierWidth columns) columns ++ "+ \");\";\n")) := by
    unfold createTable
    rw [String.append_assoc]
  have listed := operands?_continued .semicolon (.literal "CREATE TABLE IF NOT EXISTS ")
    ([.name Identifier.table, .literal " ("] ++
      ((punctuated columns).flatMap columnOperands ++ [.literal ");"]))
  rw [List.flatMap_append, List.flatMap_append, List.flatMap_assoc, List.append_assoc,
    List.append_assoc] at listed
  rw [readTable, body, after?_append]
  exact whole.trans listed

end Text

section Statement

/-- A column as the database gets it. -/
structure Definition where
  name : String
  clause : String
deriving DecidableEq, Repr

def Definition.ofField (typed : TypedField) : Definition :=
  ⟨typed.field.name, (Column.ofField typed).clause⟩

/-- A comma stands before the blank after each column but the last. -/
def definitionList : List Definition → String
  | [] => ""
  | [last] => last.name ++ " " ++ last.clause ++ " "
  | first :: more => first.name ++ " " ++ first.clause ++ ", " ++ definitionList more

def createStatement (table : String) (definitions : List Definition) : String :=
  "CREATE TABLE IF NOT EXISTS " ++ table ++ " (" ++ definitionList definitions ++ ");"

/-- The text of the statement, once names stand for the values of the generated constants. -/
def Artifacts.statement? (artifacts : Artifacts) : Option String := do
  evaluate? (meaning? artifacts.constants) (← readTable artifacts.createTable)

variable {meaning : String → Option String}

theorem evaluate?_column {column : Column} (named : meaning column.identifier = some name) :
    evaluate? meaning (columnOperands column) = some (name ++ " " ++ column.clause ++ " ") := by
  simp [evaluate?, columnOperands, Operand.value?, named, String.append_assoc]

theorem evaluate?_columns {fields : List TypedField}
    (named : ∀ typed ∈ fields, meaning typed.field.identifier = some typed.field.name) :
    evaluate? meaning ((punctuated (fields.map Column.ofField)).flatMap columnOperands) =
      some (definitionList (fields.map Definition.ofField)) := by
  induction fields with
  | nil => rfl
  | cons typed more ih =>
    have own := named typed List.mem_cons_self
    have later := ih fun other member => named other (List.mem_cons_of_mem _ member)
    cases more with
    | nil => simpa [punctuated, definitionList, Definition.ofField] using evaluate?_column own
    | cons next more =>
      have here : evaluate? meaning (columnOperands
          { Column.ofField typed with clause := (Column.ofField typed).clause ++ "," }) = _ :=
        evaluate?_column own
      -- The comma ends the clause here; in the list it starts what follows.
      rw [List.map_cons, List.map_cons, punctuated, List.flatMap_cons, ← List.map_cons,
        evaluate?_append here later]
      simp [definitionList, Definition.ofField, String.append_assoc]

theorem evaluate?_table {fields : List TypedField} (table : meaning Identifier.table = some name)
    (named : ∀ typed ∈ fields, meaning typed.field.identifier = some typed.field.name) :
    evaluate? meaning (tableOperands (fields.map Column.ofField)) =
      some (createStatement name (fields.map Definition.ofField)) := by
  have front : evaluate? meaning [.literal "CREATE TABLE IF NOT EXISTS ", .name Identifier.table,
      .literal " ("] = some ("CREATE TABLE IF NOT EXISTS " ++ name ++ " (") := by
    simp [evaluate?, Operand.value?, table, String.append_assoc]
  have foot : evaluate? meaning [.literal ");"] = some ");" := by
    simp [evaluate?, Operand.value?]
  have whole := evaluate?_append front (evaluate?_append (evaluate?_columns named) foot)
  rw [← String.append_assoc] at whole
  exact whole

end Statement

section Fields

/-- What the column of a field is: it has the field's name, and the clause of the primary key if the
field's constant is the one for it, else that of its type. -/
structure Definition.Declares (definition : Definition) (field : Field) : Prop where
  name : definition.name = field.name
  key : field.identifier = "FIELD_ID" → definition.clause = primaryKeyClause
  typed : field.identifier ≠ "FIELD_ID" →
    ∃ type, field.type = .ok type ∧ definition.clause = (SqlType.ofType type).clause

theorem clause_ne_primaryKeyClause (type : SqlType) : type.clause ≠ primaryKeyClause := by
  cases type <;> decide

theorem isPrimaryKey_identifier_iff {field : Field} :
    Identifier.isPrimaryKey field.identifier = true ↔ field.identifier = "FIELD_ID" :=
  Identifier.ofField_eq_key_iff.symm

theorem Definition.ofField_key_iff {typed : TypedField} :
    (ofField typed).clause = primaryKeyClause ↔ typed.field.identifier = "FIELD_ID" := by
  rw [← isPrimaryKey_identifier_iff, ofField, Column.ofField]
  by_cases key : Identifier.isPrimaryKey typed.field.identifier = true
  · simp [key]
  · simp [key, clause_ne_primaryKeyClause]

theorem Definition.ofField_declares {typed : TypedField} (read : typed.field.type = .ok typed.type) :
    (ofField typed).Declares typed.field := by
  refine ⟨rfl, ofField_key_iff.mpr, fun other => ⟨typed.type, read, ?_⟩⟩
  exact if_neg fun key => other (isPrimaryKey_identifier_iff.mp key)

theorem countP_key_le_one {fields : List TypedField}
    (distinct : (fields.map fun typed => typed.field.identifier).Nodup) :
    (fields.map Definition.ofField).countP (·.clause == primaryKeyClause) ≤ 1 := by
  calc (fields.map Definition.ofField).countP (·.clause == primaryKeyClause)
      = fields.countP (·.field.identifier == "FIELD_ID") := by
        rw [List.countP_map]
        refine List.countP_congr fun typed _ => ?_
        simpa using Definition.ofField_key_iff
    _ = (fields.map fun typed => typed.field.identifier).count "FIELD_ID" := by
        rw [List.count, List.countP_map]
        rfl
    _ ≤ 1 := List.nodup_iff_count_le_one.mp distinct _

theorem constant_of_mem {fields : List TypedField} :
    ∀ column ∈ punctuated (fields.map Column.ofField), Identifier.OfConstant column.identifier := by
  intro column member
  obtain ⟨plain, among, identifier, _⟩ := mem_punctuated member
  obtain ⟨typed, _, rfl⟩ := List.mem_map.mp among
  rw [identifier]
  exact .column typed.field.name

theorem statement?_artifacts {c : DataClass} {fields : List TypedField} (options : Options)
    (valid : c.validate = .ok ()) (typed : c.typedFields = .ok fields) :
    (artifacts options c fields).statement? =
      some (createStatement c.name (fields.map Definition.ofField)) := by
  have words := isWord_of_typedFields valid typed
  have named := meaning?_of_typedFields valid typed
  have first : tableConstant c ∈ constants c := List.mem_cons_self
  have table : meaning? (constants c) Identifier.table = some c.name :=
    meaning?_of_mem (constants_identifiers_nodup valid) first
  have read : readTable (artifacts options c fields).createTable =
      some (tableOperands (fields.map Column.ofField)) :=
    readTable_createTable (row_of_mem words) constant_of_mem
  rw [Artifacts.statement?, read]
  exact evaluate?_table table named

end Fields
end Schema

/-- A class whose key has a type of its own, which is accepted. -/
def DataClass.account : DataClass :=
  ⟨"Account", [⟨"Id", "String", false⟩, ⟨"photo", "byte[]", false⟩, ⟨"isOpen", "boolean", true⟩], false⟩

theorem DataClass.account_valid : account.validate = .ok () := by rfl

namespace Generator
open Schema

theorem exists_statement (g : Generator) {c : DataClass} (valid : c.validate = .ok ()) :
    ∃ artifacts fields, g.schemaArtifacts c = .ok artifacts ∧ c.typedFields = .ok fields ∧
      artifacts.statement? = some (createStatement c.name (fields.map Definition.ofField)) ∧
      List.Forall₂ Definition.Declares (fields.map Definition.ofField) c.fields := by
  obtain ⟨fields, typed⟩ := DataClass.typedFields_ok valid
  obtain ⟨_, read⟩ := DataClass.typedFields_sound typed
  refine ⟨_, fields, schemaArtifacts_eq_ok_iff.mpr ⟨valid, fields, typed, rfl⟩, typed,
    statement?_artifacts _ valid typed, ?_⟩
  exact DataClass.forall₂_typedFields typed fun typed member =>
    Definition.ofField_declares (read typed member)

/-- The statement for an accepted class is that of its name and its fields, under any tag and note, and
has one primary key at most. -/
theorem table_statement (g : Generator) {c : DataClass} (valid : c.validate = .ok ()) :
    ∃ artifacts, g.schemaArtifacts c = .ok artifacts ∧ ∃ definitions,
      List.Forall₂ Definition.Declares definitions c.fields ∧
      artifacts.statement? = some (createStatement c.name definitions) ∧
      definitions.countP (·.clause == primaryKeyClause) ≤ 1 := by
  obtain ⟨artifacts, fields, made, typed, statement, declared⟩ := exists_statement g valid
  refine ⟨artifacts, made, fields.map Definition.ofField, declared, statement, ?_⟩
  have distinct := DataClass.identifiers_nodup valid
  rw [DataClass.identifiers, ← (DataClass.typedFields_sound typed).1, List.map_map] at distinct
  exact countP_key_le_one distinct

theorem table_statement_account : DataClass.account.validate = .ok () ∧
    ∃ artifacts,
      Generator.schemaArtifacts ⟨.ofRegistry .empty, ⟨"TAG", "check"⟩⟩ .account = .ok artifacts ∧
      ∃ definitions, List.Forall₂ Definition.Declares definitions DataClass.account.fields ∧
        artifacts.statement? = some (createStatement DataClass.account.name definitions) ∧
        definitions.countP (·.clause == primaryKeyClause) ≤ 1 :=
  ⟨DataClass.account_valid, table_statement _ DataClass.account_valid⟩

end Generator
end Boilerplate
