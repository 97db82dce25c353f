import Boilerplate.Proofs.Schema.Table
import Boilerplate.Text.Bytes

/-! Where the clauses of the columns start in the text of the statement that creates the table.
Identifiers are filled up with blanks to a width that is measured in bytes, so all clauses start in one
place. It is the place three blanks behind the longest identifier exactly when one of the identifiers
with the most bytes has no character of more than one byte. -/
namespace Boilerplate
namespace Schema
open Text
open Identifier (IsWord EndsWord endsWord_cons)

section Sizes
variable {texts : List String}

def greatest (size : String → Nat) (texts : List String) : Nat := (texts.map size).foldl max 0

/-- The most characters that one of the texts has. -/
def longest (texts : List String) : Nat := greatest String.length texts

/-- The most bytes that one of the texts has. -/
def broadest (texts : List String) : Nat := greatest String.utf8ByteSize texts

def IsAscii (text : String) : Prop := ∀ c ∈ text.toList, c.val ≤ 127

instance : DecidablePred IsAscii := fun text => inferInstanceAs (Decidable (∀ c ∈ text.toList, c.val ≤ 127))

theorem foldl_max_spec {sizes : List Nat} (filled : sizes ≠ []) :
    sizes.foldl max 0 ∈ sizes ∧ ∀ size ∈ sizes, size ≤ sizes.foldl max 0 := by
  obtain ⟨most, found⟩ := Option.ne_none_iff_exists'.mp (mt List.max?_eq_none_iff.mp filled)
  rw [List.foldl_max, found, Option.getD_some, Nat.zero_max]
  exact List.max?_eq_some_iff.mp found

theorem exists_greatest (size : String → Nat) (filled : texts ≠ []) :
    ∃ text ∈ texts, size text = greatest size texts :=
  List.mem_map.mp (foldl_max_spec (mt List.map_eq_nil_iff.mp filled)).1

theorem le_greatest (size : String → Nat) (member : text ∈ texts) : size text ≤ greatest size texts :=
  (foldl_max_spec (mt List.map_eq_nil_iff.mp (List.ne_nil_of_mem member))).2 _
    (List.mem_map_of_mem member)

theorem length_le_utf8ByteSize (text : String) : text.length ≤ text.utf8ByteSize := by
  rw [← String.length_toList, ← byteLength_toList]
  exact length_le_byteLength _

theorem utf8ByteSize_eq_length_iff {text : String} : text.utf8ByteSize = text.length ↔ IsAscii text := by
  rw [← String.length_toList, ← byteLength_toList]
  exact byteLength_eq_length_iff

theorem longest_eq_broadest_iff (filled : texts ≠ []) : longest texts = broadest texts ↔
    ∃ text ∈ texts, text.utf8ByteSize = broadest texts ∧ IsAscii text := by
  -- A longest text has at most as many bytes as a broadest one, and at least as many as characters.
  obtain ⟨long, among, length⟩ := exists_greatest String.length filled
  have least := length_le_utf8ByteSize long
  have most := le_greatest String.utf8ByteSize among
  unfold longest broadest
  constructor
  · intro same
    exact ⟨long, among, by omega, utf8ByteSize_eq_length_iff.mp (by omega)⟩
  · rintro ⟨text, member, bytes, ascii⟩
    have own := le_greatest String.length member
    rw [utf8ByteSize_eq_length_iff.mpr ascii] at bytes
    omega

end Sizes

section Cells

/-- An identifier in front of a clause, and the number of blanks that fill it up. -/
structure Cell where
  identifier : String
  padding : Nat
deriving DecidableEq, Repr

def Cell.width (cell : Cell) : Nat := cell.identifier.length + cell.padding

/-- The number of blanks at the front, and what follows them. -/
def takeBlanks (text : String) : Nat × String :=
  ((text.toList.takeWhile (· == ' ')).length, String.ofList (text.toList.dropWhile (· == ' ')))

/-- The cell of a column's line. One of the blanks after an identifier belongs to the operator that the
clause comes after. -/
def readCell (line : String) : Option Cell := do
  let (identifier, rest) := takeName (← after? "+ " line)
  let (padding, rest) := takeBlanks (← after? " " rest)
  let _ ← after? "+ \"" rest
  return ⟨identifier, padding⟩

/-- The other lines have no cells. -/
def readCells (text : String) : List Cell := (lines text).filterMap readCell

def Cell.filled (width : Nat) (identifier : String) : Cell := ⟨identifier, width - identifier.length⟩

/-- The line of a column, without its line break. -/
def cellLine (width : Nat) (column : Column) : String :=
  "+ " ++ (column.identifier ++ (" " ++ (blanks (width - column.identifier.length) ++
    ("+ \"" ++ (" " ++ (column.clause ++ " \""))))))

/-- The lines before those of the columns. -/
def tableHead : List String :=
  ["public static final String CREATE_TABLE = \"CREATE TABLE IF NOT EXISTS \"", "+ TABLE", "+ \" (\""]

theorem blanks_append_blank (n : Nat) : blanks n ++ " " = " " ++ blanks n := by
  apply String.toList_injective
  simp [blanks, ← List.replicate_succ, List.replicate_succ']

theorem columnLine_eq (width : Nat) (column : Column) :
    columnLine width "" column = cellLine width column ++ "\n" := by
  have operator : " + \" " = " " ++ ("+ \"" ++ " ") := rfl
  have quote : " \"\n" = " \"" ++ "\n" := rfl
  have turn (n : Nat) (rest : String) : blanks n ++ (" " ++ rest) = " " ++ (blanks n ++ rest) := by
    rw [← String.append_assoc, blanks_append_blank, String.append_assoc]
  simp only [columnLine, padRight, cellLine, operator, quote, String.append_assoc, String.append_empty]
  rw [turn]

theorem unlines_tableHead : unlines tableHead =
    "public static final String CREATE_TABLE = " ++
      "\"CREATE TABLE IF NOT EXISTS \"\n+ TABLE\n+ \" (\"\n" := by
  decide +kernel

theorem createTable_eq (columns : List Column) : createTable columns = unlines (tableHead ++
    ((punctuated columns).map (cellLine (identifierWidth columns)) ++ ["+ \");\";"])) := by
  have middle : unlines ((punctuated columns).map (cellLine (identifierWidth columns))) =
      columnLines (identifierWidth columns) columns := by
    rw [columnLines_eq, unlines, List.map_map]
    exact congrArg String.join (List.map_congr_left fun column _ => (columnLine_eq _ column).symm)
  have foot : unlines ["+ \");\";"] = "+ \");\";\n" := by simp [unlines]
  rw [unlines_append, unlines_append, middle, foot, unlines_tableHead]
  unfold createTable
  rfl

theorem oneLine_cellLine (row : Row column) (width : Nat) : OneLine (cellLine width column) := by
  have blank (n : Nat) : OneLine (blanks n) := by
    simp [OneLine, blanks]
  have clauses : ∀ clause ∈ clauses, OneLine clause := by decide
  simp only [cellLine, oneLine_append_iff, oneLine_of_isWord row.word, blank, clauses _ row.clause]
  decide

theorem takeBlanks_append (n : Nat) (ends : rest.toList.head? ≠ some ' ') :
    takeBlanks (blanks n ++ rest) = (n, rest) := by
  have chars : (blanks n ++ rest).toList = List.replicate n ' ' ++ rest.toList := by
    simp [blanks]
  have blank : ∀ c ∈ List.replicate n ' ', (c == ' ') = true := by simp
  have front : rest.toList.takeWhile (· == ' ') = [] ∧ rest.toList.dropWhile (· == ' ') = rest.toList := by
    cases split : rest.toList with
    | nil => exact ⟨rfl, rfl⟩
    | cons c cs =>
      rw [split] at ends
      have mark : (c == ' ') = false := by simpa using ends
      simp [mark]
  rw [takeBlanks, chars, List.takeWhile_append_of_pos blank, List.dropWhile_append_of_pos blank,
    front.1, front.2, List.append_nil, List.length_replicate, String.ofList_toList]

theorem readCell_cellLine (word : IsWord column.identifier.toList) (width : Nat) :
    readCell (cellLine width column) = some (.filled width column.identifier) := by
  have ends (rest : String) : EndsWord (" " ++ rest).toList := by
    rw [String.toList_append]
    exact endsWord_cons rfl _
  have operator (rest : String) : ("+ \"" ++ rest).toList.head? ≠ some ' ' := by
    rw [String.toList_append]
    exact fun same => absurd (Option.some.inj same) (by decide)
  rw [readCell, cellLine, after?_append]
  dsimp only [Option.bind_eq_bind, Option.bind_some]
  rw [takeName_append word _ (ends _), after?_append]
  dsimp only [Option.bind_some]
  rw [takeBlanks_append _ (operator _), after?_append]
  rfl

theorem readCells_createTable {columns : List Column} (rows : ∀ column ∈ punctuated columns, Row column) :
    readCells (createTable columns) =
      (columns.map Column.identifier).map (.filled (identifierWidth columns)) := by
  have middle : ∀ line ∈ (punctuated columns).map (cellLine (identifierWidth columns)), OneLine line :=
    List.forall_mem_map.mpr fun column member => oneLine_cellLine (rows column member) _
  have oneLine : ∀ line ∈ tableHead ++
      ((punctuated columns).map (cellLine (identifierWidth columns)) ++ ["+ \");\";"]), OneLine line :=
    List.forall_mem_append.mpr ⟨by decide, List.forall_mem_append.mpr ⟨middle, by decide⟩⟩
  have head : tableHead.filterMap readCell = [] := by decide +kernel
  have foot : (["+ \");\";"] ++ [""]).filterMap readCell = [] := by decide +kernel
  have cells : ((punctuated columns).map (cellLine (identifierWidth columns))).filterMap readCell =
      (punctuated columns).map fun column => .filled (identifierWidth columns) column.identifier := by
    rw [List.filterMap_map, ← List.filterMap_eq_map]
    exact List.filterMap_congr fun column member => readCell_cellLine (rows column member).word _
  rw [readCells, createTable_eq, lines_unlines oneLine, List.append_assoc, List.append_assoc,
    List.filterMap_append, List.filterMap_append, head, foot, cells, List.nil_append, List.append_nil,
    ← punctuated_identifiers, List.map_map]
  rfl

end Cells

section Width
variable {identifiers : List String} {text : String} {n m : Nat}

/-- The lines of the columns have these identifiers, and the clauses all start after so many characters
of identifier and blanks. -/
structure AlignedAt (width : Nat) (identifiers : List String) (text : String) : Prop where
  identifiers : (readCells text).map Cell.identifier = identifiers
  width : ∀ cell ∈ readCells text, cell.width = width

theorem AlignedAt.unique (one : AlignedAt n identifiers text) (other : AlignedAt m identifiers text)
    (filled : identifiers ≠ []) : n = m := by
  rw [← one.identifiers] at filled
  obtain ⟨cell, member⟩ := List.exists_mem_of_ne_nil _ (mt List.map_eq_nil_iff.mpr filled)
  exact (one.width cell member).symm.trans (other.width cell member)

theorem identifierWidth_eq (columns : List Column) :
    identifierWidth columns = broadest (columns.map Column.identifier) + 3 := by
  rw [broadest, greatest, List.map_map]
  rfl

theorem createTable_aligned {columns : List Column} (rows : ∀ column ∈ punctuated columns, Row column) :
    AlignedAt (broadest (columns.map Column.identifier) + 3) (columns.map Column.identifier)
      (createTable columns) := by
  have cells := readCells_createTable rows
  rw [identifierWidth_eq] at cells
  constructor
  · rw [cells, List.map_map]
    exact List.map_id _
  · rw [cells]
    refine List.forall_mem_map.mpr fun identifier member => ?_
    -- No identifier is longer than the width, so none is left as it stands.
    have least := length_le_utf8ByteSize identifier
    have bound := le_greatest String.utf8ByteSize member
    simp only [Cell.filled, Cell.width, broadest]
    omega

end Width
end Schema

/-- A class with letters beyond ASCII in the name of its field. -/
def DataClass.box : DataClass := ⟨"Box", [⟨"größe", "long", true⟩], false⟩

namespace Generator
open Schema

/-- In the statement for an accepted class the clauses start in one place, three characters further than
the broadest identifier has bytes. That is three blanks behind the longest identifier if and only if one
of the broadest is in ASCII. -/
theorem clauses_aligned (g : Generator) {c : DataClass} (valid : c.validate = .ok ())
    (filled : c.fields ≠ []) :
    ∃ artifacts, g.schemaArtifacts c = .ok artifacts ∧
      AlignedAt (broadest c.identifiers + 3) c.identifiers artifacts.createTable ∧
      (AlignedAt (longest c.identifiers + 3) c.identifiers artifacts.createTable ↔
        ∃ identifier ∈ c.identifiers,
          identifier.utf8ByteSize = broadest c.identifiers ∧ IsAscii identifier) := by
  obtain ⟨fields, typed⟩ := DataClass.typedFields_ok valid
  have names : (fields.map Column.ofField).map Column.identifier = c.identifiers := by
    rw [DataClass.identifiers, ← (DataClass.typedFields_sound typed).1, List.map_map, List.map_map]
    rfl
  have named : c.identifiers ≠ [] := by
    rw [DataClass.identifiers]
    exact mt List.map_eq_nil_iff.mp filled
  have aligned := createTable_aligned (row_of_mem (isWord_of_typedFields valid typed))
  rw [names] at aligned
  refine ⟨_, schemaArtifacts_eq_ok_iff.mpr ⟨valid, fields, typed, rfl⟩, aligned, ?_⟩
  rw [← longest_eq_broadest_iff named]
  constructor
  · intro wanted
    exact Nat.add_right_cancel (wanted.unique aligned named)
  · intro same
    rw [same]
    exact aligned

theorem clauses_aligned_account : DataClass.account.validate = .ok () ∧ DataClass.account.fields ≠ [] ∧
    ∃ artifacts,
      Generator.schemaArtifacts ⟨.ofRegistry .empty, ⟨"TAG", "check"⟩⟩ .account = .ok artifacts ∧
      AlignedAt (broadest DataClass.account.identifiers + 3) DataClass.account.identifiers
        artifacts.createTable ∧
      (AlignedAt (longest DataClass.account.identifiers + 3) DataClass.account.identifiers
          artifacts.createTable ↔
        ∃ identifier ∈ DataClass.account.identifiers,
          identifier.utf8ByteSize = broadest DataClass.account.identifiers ∧ IsAscii identifier) :=
  ⟨DataClass.account_valid, by decide, clauses_aligned _ DataClass.account_valid (by decide)⟩

/-- The longest identifier has five blanks behind it. -/
theorem umlaut_not_aligned : DataClass.box.validate = .ok () ∧
    ∃ artifacts,
      Generator.schemaArtifacts ⟨.ofRegistry .empty, ⟨"TAG", "check"⟩⟩ .box = .ok artifacts ∧
      readCells artifacts.createTable = [⟨"FIELD_GRößE", 5⟩] ∧
      ¬ AlignedAt (longest DataClass.box.identifiers + 3) DataClass.box.identifiers
        artifacts.createTable := by
  have valid : DataClass.box.validate = .ok () := by rfl
  have typed : DataClass.box.typedFields = .ok [⟨⟨"größe", "long", true⟩, ⟨"long", [], 0⟩⟩] := by rfl
  have cells : readCells (createTable [Column.ofField ⟨⟨"größe", "long", true⟩, ⟨"long", [], 0⟩⟩]) =
      [⟨"FIELD_GRößE", 5⟩] :=
    (readCells_createTable (row_of_mem (isWord_of_typedFields valid typed))).trans (by decide +kernel)
  have first := List.mem_of_mem_head? (congrArg List.head? cells)
  refine ⟨valid, _, schemaArtifacts_eq_ok_iff.mpr ⟨valid, _, typed, rfl⟩, cells, fun aligned => ?_⟩
  exact absurd (aligned.width _ first) (by decide +kernel)

end Generator
end Boilerplate
