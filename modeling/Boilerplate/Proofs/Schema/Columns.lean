import Boilerplate.Proofs.Generator
import Boilerplate.Proofs.Schema.Reading
import Boilerplate.Toolchain
import Mathlib.Data.List.Forall2
import Mathlib.Data.List.Nodup

/-! The columns of one class in its generated members. The list of columns, the content values and
the chain of tests are written apart from one another and share no more than identifiers, so each is
read back and its identifiers are looked up among the generated constants. -/
namespace Boilerplate

theorem Field.typed_eq_ok_iff {field : Field} {typed : TypedField} :
    field.typed = .ok typed ↔ typed.field = field ∧ field.type = .ok typed.type := by
  unfold Field.typed
  cases field.type with
  | error cause => simp [Except.map]
  | ok type =>
    constructor
    · rintro ⟨⟩
      exact ⟨rfl, rfl⟩
    · rintro ⟨rfl, read⟩
      cases read
      rfl

/-- The typed fields are the fields in their places, each with its own type. -/
theorem DataClass.typedFields_sound {c : DataClass} {fields : List TypedField}
    (typed : c.typedFields = .ok fields) :
    fields.map TypedField.field = c.fields ∧ ∀ typed ∈ fields, typed.field.type = .ok typed.type := by
  unfold typedFields at typed
  generalize c.fields = sources at *
  induction sources generalizing fields with
  | nil =>
    cases typed
    simp
  | cons source more ih =>
    rw [List.mapM_cons] at typed
    obtain ⟨first, here, others⟩ := bind_eq_ok_iff.mp typed
    obtain ⟨rest, later, same⟩ := bind_eq_ok_iff.mp others
    cases same
    obtain ⟨rfl, read⟩ := Field.typed_eq_ok_iff.mp here
    obtain ⟨fields, types⟩ := ih later
    exact ⟨congrArg (first.field :: ·) fields, List.forall_mem_cons.mpr ⟨read, types⟩⟩

/-- What is made from each typed field stands against the field itself. -/
theorem DataClass.forall₂_typedFields {c : DataClass} {fields : List TypedField}
    {related : α → Field → Prop} {made : TypedField → α} (typed : c.typedFields = .ok fields)
    (each : ∀ typed ∈ fields, related (made typed) typed.field) :
    List.Forall₂ related (fields.map made) c.fields := by
  rw [← (typedFields_sound typed).1, List.forall₂_map_left_iff, List.forall₂_map_right_iff,
    List.forall₂_same]
  exact each

theorem DataClass.names_nodup {c : DataClass} (valid : c.validate = .ok ()) :
    (c.fields.map Field.name).Nodup :=
  (keepRules_of_validate valid).names

namespace Schema

section Meaning

/-- What an identifier stands for: the value of the one constant that is declared under it. -/
def meaning? (constants : List Constant) (identifier : String) : Option String :=
  match constants.filter (·.identifier == identifier) with
  | [constant] => some constant.value
  | _ => none

theorem meaning?_of_mem {constants : List Constant}
    (distinct : (constants.map Constant.identifier).Nodup) (member : constant ∈ constants) :
    meaning? constants constant.identifier = some constant.value := by
  have one : constants.filter (·.identifier == constant.identifier) = [constant] :=
    filter_eq_singleton distinct member
  rw [meaning?, one]

/-- The constant of a field holds the field's own name. -/
theorem meaning?_identifier {c : DataClass} (valid : c.validate = .ok ()) (member : field ∈ c.fields) :
    meaning? (constants c) field.identifier = some field.name :=
  meaning?_of_mem (constants_identifiers_nodup valid)
    (List.mem_cons_of_mem _ (List.mem_map_of_mem (f := fieldConstant) member))

theorem meaning?_of_typedFields {c : DataClass} {fields : List TypedField} (valid : c.validate = .ok ())
    (typed : c.typedFields = .ok fields) :
    ∀ typed ∈ fields, meaning? (constants c) typed.field.identifier = some typed.field.name :=
  fun _ member => meaning?_identifier valid
    ((DataClass.typedFields_sound typed).1 ▸ List.mem_map_of_mem member)

end Meaning

section Chain
variable (meaning : String → Option String)

/-- What is done with a column. -/
inductive Effect where
  | assigns (field value : String)
  /-- What the last branch does. -/
  | otherwise (actions : List Action)
  | passes
deriving DecidableEq, Repr

/-- The first test that holds decides. There is no outcome when an identifier without a meaning is
tested before. -/
def Tests.run (column : String) : Tests → Option Effect
  | .none => some .passes
  | .otherwise actions => some (.otherwise actions)
  | .test identifier field value more => do
    if (← meaning identifier) == column then return .assigns field value
    else more.run column

def assignment (typed : TypedField) : Effect :=
  .assigns typed.field.name (ColumnReader.ofType typed.type).expression

theorem run_branches {fields : List TypedField}
    (named : ∀ typed ∈ fields, meaning typed.field.identifier = some typed.field.name)
    (actions : List Action) (column : String) :
    ((fields.map CursorBranch.ofField).foldr CursorBranch.test (.otherwise actions)).run meaning column =
      some (((fields.find? (·.field.name == column)).map assignment).getD (.otherwise actions)) := by
  induction fields with
  | nil => rfl
  | cons typed more ih =>
    have own := named typed List.mem_cons_self
    have later := ih fun other member => named other (List.mem_cons_of_mem _ member)
    rw [List.map_cons, List.foldr_cons, List.find?_cons]
    simp only [CursorBranch.test, Tests.run, CursorBranch.ofField, own, Option.bind_eq_bind,
      Option.bind_some]
    cases hit : typed.field.name == column with
    | true => rfl
    | false => exact later

/-- The chain looks for a column among the fields: it assigns the one with the column's name, as its
type is read, and takes those actions on a column that no field has, unless there are no fields at
all. -/
structure Tests.Finds (actions : List Action) (fields : List Field) (column : String)
    (tests : Tests) : Prop where
  assigns : ∀ target value, tests.run meaning column = some (.assigns target value) ↔
    ∃ field ∈ fields, field.name = column ∧ target = field.name ∧
      ∃ type, field.type = .ok type ∧ value = (ColumnReader.ofType type).expression
  otherwise : tests.run meaning column = some (.otherwise actions) ↔
    fields ≠ [] ∧ ∀ field ∈ fields, field.name ≠ column
  passes : tests.run meaning column = some .passes ↔ fields = []

theorem branchTests_finds {fields : List TypedField}
    (named : ∀ typed ∈ fields, meaning typed.field.identifier = some typed.field.name)
    (read : ∀ typed ∈ fields, typed.field.type = .ok typed.type)
    (distinct : (fields.map fun typed => typed.field.name).Nodup) (actions : List Action)
    (column : String) : (branchTests actions (fields.map CursorBranch.ofField)).Finds meaning actions
      (fields.map TypedField.field) column := by
  cases fields with
  | nil => constructor <;> simp [branchTests, Tests.run]
  | cons first more =>
    have filled : first :: more ≠ [] := List.cons_ne_nil first more
    have run : (branchTests actions ((first :: more).map CursorBranch.ofField)).run meaning column =
        some ((((first :: more).find? (·.field.name == column)).map assignment).getD
          (.otherwise actions)) := run_branches meaning named actions column
    -- From here on only the search counts, not where the chain starts.
    generalize first :: more = fields at *
    cases found : fields.find? (·.field.name == column) with
    | none =>
      have absent : ∀ typed ∈ fields, typed.field.name ≠ column := by simpa using found
      rw [found] at run
      constructor <;> rw [run]
      · intro target value
        constructor
        · rintro ⟨⟩
        · rintro ⟨field, among, same, _⟩
          obtain ⟨typed, member, rfl⟩ := List.mem_map.mp among
          exact absurd same (absent typed member)
      · simpa [filled] using absent
      · simpa using filled
    | some typed =>
      have member := List.mem_of_find?_eq_some found
      have name : typed.field.name = column := by simpa using List.find?_some found
      have only : ∀ other ∈ fields, other.field.name = column → other = typed := fun other among same =>
        List.inj_on_of_nodup_map distinct among member (same.trans name.symm)
      rw [found] at run
      constructor <;> rw [run]
      · intro target value
        constructor
        · rintro ⟨⟩
          exact ⟨typed.field, List.mem_map_of_mem member, name, rfl, typed.type, read typed member, rfl⟩
        · rintro ⟨field, among, same, rfl, type, own, rfl⟩
          obtain ⟨other, declared, rfl⟩ := List.mem_map.mp among
          obtain rfl := only other declared same
          cases own.symm.trans (read other declared)
          rfl
      · simpa [assignment, filled] using ⟨typed, member, name⟩
      · simpa [assignment] using filled

end Chain

/-- The chain of an accepted class, when what its last branch does can be read. -/
theorem exists_tests {c : DataClass} {fields : List TypedField} (valid : c.validate = .ok ())
    (typed : c.typedFields = .ok fields)
    (read : c.fields ≠ [] → readActions (warning logTag) = some actions) :
    ∃ tests, readCursor (cursorDeserializer logTag (fields.map CursorBranch.ofField)) = some tests ∧
      ∀ column, tests.Finds (meaning? (constants c)) actions c.fields column := by
  obtain ⟨same, types⟩ := DataClass.typedFields_sound typed
  have made := branch_of_mem (isWord_of_typedFields valid typed)
  have names := DataClass.names_nodup valid
  rw [← same] at read ⊢
  rw [← same, List.map_map] at names
  refine ⟨_, readCursor_cursorDeserializer made fun some => read (by simpa using some), fun column => ?_⟩
  exact branchTests_finds _ (meaning?_of_typedFields valid typed) types names actions column

/-- The call stores the field in its own column, and only when it is there if it may be missing. -/
structure Put.Stores (meaning : String → Option String) (put : Put) (field : Field) : Prop where
  key : meaning put.key = some field.name
  guard : put.guard = if field.isPrimitive then none else some field.name
  value : ∃ type, field.type = .ok type ∧
    put.value = (ValueConversion.ofType type).apply field.name

/-- The members of a class agree on its columns. The tag is written into the chain of a class that has
fields; there it is an operand, and the chain warns of a column that no field has and does nothing
else. -/
structure Artifacts.Agree (logTag : String) (fields : List Field) (artifacts : Artifacts) : Prop where
  projection : ∃ identifiers, readProjection artifacts.fullProjection = some identifiers ∧
    identifiers.map (meaning? artifacts.constants) = fields.map fun field => some field.name
  values : ∃ puts, readContentValues artifacts.contentValues = some puts ∧
    List.Forall₂ (Put.Stores (meaning? artifacts.constants)) puts fields
  cursor : ∀ tag, (fields ≠ [] → TagReads logTag tag) →
    ∃ tests, readCursor artifacts.cursorDeserializer = some tests ∧ ∀ column,
      tests.Finds (meaning? artifacts.constants) [.warns tag unknownColumn] fields column

end Schema

/-- A configuration whose tag ends the call it is written into and begins another one. -/
def Config.escaping : Config :=
  ⟨⟨"TAG, \"\"); this.x = y; android.util.Log.w(TAG", "check"⟩, [], [], []⟩

namespace Generator
open Schema
open Identifier (IsWord)

/-- The members of an accepted class agree on its columns, under any note. -/
theorem columns_agree (g : Generator) {c : DataClass} (valid : c.validate = .ok ()) :
    ∃ artifacts, g.schemaArtifacts c = .ok artifacts ∧ artifacts.Agree g.options.logTag c.fields := by
  obtain ⟨fields, typed⟩ := DataClass.typedFields_ok valid
  obtain ⟨same, read⟩ := DataClass.typedFields_sound typed
  have named := meaning?_of_typedFields valid typed
  refine ⟨_, schemaArtifacts_eq_ok_iff.mpr ⟨valid, fields, typed, rfl⟩, ?_, ?_, ?_⟩
  · have words := isWord_of_mem_identifiers valid
    refine ⟨c.identifiers, readProjection_fullProjection words ?_, ?_⟩
    · intro identifier member
      obtain ⟨field, _, rfl⟩ := List.mem_map.mp member
      exact fun empty => Identifier.ofField_ne_nil field.name (congrArg String.toList empty)
    · rw [DataClass.identifiers, List.map_map]
      exact List.map_congr_left fun field member => meaning?_identifier valid member
  · refine ⟨_, readContentValues_contentValues (entry_of_mem (isWord_of_typedFields valid typed)), ?_⟩
    rw [← same, List.map_map, List.forall₂_map_left_iff, List.forall₂_map_right_iff,
      List.forall₂_same]
    intro typed member
    refine ⟨named typed member, ?_, typed.type, read typed member, rfl⟩
    cases primitive : typed.field.isPrimitive <;> simp [ContentEntry.put, ContentEntry.ofField, primitive]
  · exact fun tag reads => exists_tests valid typed fun some => readActions_warning (reads some)

theorem columns_agree_point : DataClass.point.validate = .ok () ∧
    TagReads "TAG" [.operand (.name "TAG")] ∧ ∃ artifacts,
      Generator.schemaArtifacts ⟨.ofRegistry .empty, ⟨"TAG", "check"⟩⟩ .point = .ok artifacts ∧
      artifacts.Agree "TAG" DataClass.point.fields :=
  ⟨DataClass.point_valid, tagReads_of_isLegal (by decide), columns_agree _ DataClass.point_valid⟩

/-- The tag is accepted, and a column that no field has makes one field the value of another. -/
theorem tag_escapes_warning :
    Config.escaping.validate = .ok () ∧ DataClass.point.validate = .ok () ∧
      (∀ field ∈ DataClass.point.fields, field.name ≠ "z") ∧
      ∃ artifacts, (Toolchain.ofConfig .escaping).generator.schemaArtifacts .point = .ok artifacts ∧
        ∃ tests, readCursor artifacts.cursorDeserializer = some tests ∧
          tests.run (meaning? artifacts.constants) "z" = some (.otherwise
            [.warns [.operand (.name "TAG")] [.literal ""], .assigns "x" (.name "y"),
              .warns [.operand (.name "TAG")] unknownColumn]) := by
  obtain ⟨fields, typed⟩ := DataClass.typedFields_ok DataClass.point_valid
  have absent : ∀ field ∈ DataClass.point.fields, field.name ≠ "z" := by decide
  have read : readActions (warning Config.escaping.options.logTag) = some
      [.warns [.operand (.name "TAG")] [.literal ""], .assigns "x" (.name "y"),
        .warns [.operand (.name "TAG")] unknownColumn] := by decide +kernel
  obtain ⟨tests, chain, finds⟩ := exists_tests DataClass.point_valid typed fun _ => read
  have taken := (finds "z").otherwise.mpr ⟨by decide, absent⟩
  exact ⟨by rfl, DataClass.point_valid, absent, _,
    schemaArtifacts_eq_ok_iff.mpr ⟨DataClass.point_valid, fields, typed, rfl⟩, tests, chain, taken⟩

end Generator
end Boilerplate
