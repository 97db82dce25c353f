import Boilerplate.Proofs.DataClass.Validation
import Boilerplate.Proofs.Identifier
import Boilerplate.Schema.Artifacts
import Mathlib.Data.List.Basic

/-! Generated schema texts differ in more than blanks or not at all. Without its blanks a text is a
row of pieces, each of which tells where it ends and what it was made from, so two texts that agree up
to blanks come from the same pieces. -/
namespace Boilerplate.Schema
open Text
open Identifier (IsWord EndsWord endsWord_cons)

section Pieces
variable {α : Type} {accepted : α → Prop} {code : α → List Char} {last : List Char}

/-- A row of pieces can be read from the left when each piece tells where it ends and none of them
looks like the end of the row. -/
theorem pieces_injective
    (next : ∀ a b rest more, accepted a → accepted b → code a ++ rest = code b ++ more →
      a = b ∧ rest = more)
    (apart : ∀ a rest, accepted a → code a ++ rest ≠ last) {as bs : List α}
    (one : ∀ a ∈ as, accepted a) (other : ∀ b ∈ bs, accepted b)
    (same : as.flatMap code ++ last = bs.flatMap code ++ last) : as = bs := by
  induction as generalizing bs with
  | nil =>
    cases bs with
    | nil => rfl
    -- One row has ended, so the other's first piece would read as the end.
    | cons b bs =>
      rw [List.flatMap_cons, List.append_assoc] at same
      exact absurd same.symm (apart b _ (other b List.mem_cons_self))
  | cons a as ih =>
    cases bs with
    | nil =>
      rw [List.flatMap_cons, List.append_assoc] at same
      exact absurd same (apart a _ (one a List.mem_cons_self))
    | cons b bs =>
      rw [List.flatMap_cons, List.flatMap_cons, List.append_assoc, List.append_assoc] at same
      obtain ⟨rfl, rest⟩ :=
        next a b _ _ (one a List.mem_cons_self) (other b List.mem_cons_self) same
      rw [ih (fun c member => one c (List.mem_cons_of_mem _ member))
        (fun c member => other c (List.mem_cons_of_mem _ member)) rest]

theorem squeeze_join_map {text : α → String} {as : List α} (each : ∀ a ∈ as, squeeze (text a) = code a) :
    squeeze (String.join (as.map text)) = as.flatMap code := by
  rw [squeeze_join, List.flatMap_map]
  exact List.flatMap_congr each

/-- Two texts up to the first place of a mark that neither has before. -/
theorem marked_append_inj {mark : Char} {first second rest more : List Char} (one : mark ∉ first)
    (other : mark ∉ second) (same : first ++ mark :: rest = second ++ mark :: more) :
    first = second ∧ rest = more := by
  have stop {cs : List Char} (none : mark ∉ cs) (ds : List Char) :
      (cs ++ mark :: ds).takeWhile (· != mark) = cs := by
    rw [List.takeWhile_append_of_pos]
    · simp
    · intro c member
      exact bne_iff_ne.mpr fun equal => none (equal ▸ member)
  have read := congrArg (List.takeWhile (· != mark)) same
  rw [stop one, stop other] at read
  subst read
  exact ⟨rfl, (List.cons.inj (List.append_cancel_left same)).2⟩

end Pieces

section Projection

theorem squeeze_intercalate {identifiers : List String}
    (words : ∀ identifier ∈ identifiers, IsWord identifier.toList) :
    squeeze (String.intercalate "," identifiers) = (String.intercalate "," identifiers).toList := by
  rw [squeeze, String.toList_intercalate]
  refine List.filter_eq_self.mpr fun c member => ?_
  induction identifiers with
  | nil => cases member
  | cons first more ih =>
    have own := (words first List.mem_cons_self).not_blank
    cases more with
    | nil => simp [own c (by simpa using member)]
    | cons second more =>
      rw [List.map_cons, List.map_cons, List.intercalate_cons_cons, List.mem_append,
        List.mem_append] at member
      rcases member with (early | comma) | late
      · simp [own c early]
      · obtain rfl := List.mem_singleton.mp comma
        rfl
      · exact ih (fun other later => words other (List.mem_cons_of_mem _ later)) late

theorem fullProjection_injective {one other : List String}
    (words : ∀ identifier ∈ one, IsWord identifier.toList)
    (wordsToo : ∀ identifier ∈ other, IsWord identifier.toList)
    (same : squeeze (fullProjection one) = squeeze (fullProjection other)) :
    fullProjection one = fullProjection other := by
  unfold fullProjection at same ⊢
  simp only [squeeze_append] at same
  have listed := List.append_cancel_left (List.append_cancel_right same)
  rw [squeeze_intercalate words, squeeze_intercalate wordsToo] at listed
  rw [String.toList_injective listed]

end Projection

section Table

/-- The columns with the comma that follows each of them but the last. -/
def punctuated : List Column → List Column
  | [] => []
  | [last] => [last]
  | column :: next :: more => { column with clause := column.clause ++ "," } :: punctuated (next :: more)

theorem punctuated_identifiers (columns : List Column) :
    (punctuated columns).map Column.identifier = columns.map Column.identifier := by
  induction columns with
  | nil => rfl
  | cons column more ih =>
    cases more with
    | nil => rfl
    | cons next more => exact congrArg (column.identifier :: ·) ih

theorem columnLines_eq (width : Nat) (columns : List Column) :
    columnLines width columns = String.join ((punctuated columns).map (columnLine width "")) := by
  induction columns with
  | nil => rfl
  | cons column more ih =>
    cases more with
    | nil => simp [columnLines, punctuated]
    | cons next more =>
      have comma : columnLine width "," column =
          columnLine width "" { column with clause := column.clause ++ "," } := by
        simp [columnLine, String.append_assoc]
      rw [columnLines, punctuated, ih, comma, List.map_cons, String.join_cons]
      simp

/-- The clauses of columns, with and without a comma. -/
def clauses : List String :=
  let plain := [SqlType.blob.clause, SqlType.integer.clause, SqlType.text.clause, primaryKeyClause]
  plain ++ plain.map (· ++ ",")

theorem clauses_differ : ∀ one ∈ clauses, ∀ other ∈ clauses, squeeze one = squeeze other → one = other := by
  decide

theorem clauses_unquoted : ∀ clause ∈ clauses, '"' ∉ squeeze clause := by decide

/-- What a line of the statement is made from. -/
structure Row (column : Column) : Prop where
  word : IsWord column.identifier.toList
  named : column.identifier.toList ≠ []
  clause : column.clause ∈ clauses

def rowCode (column : Column) : List Char :=
  '+' :: (column.identifier.toList ++ '+' :: '"' :: (squeeze column.clause ++ ['"']))

theorem squeeze_blanks (n : Nat) : squeeze (blanks n) = [] := by
  refine List.filter_eq_nil_iff.mpr fun c member => ?_
  rw [blanks, String.toList_ofList] at member
  rw [(List.mem_replicate.mp member).2]
  decide

theorem squeeze_columnLine {column : Column} (row : Row column) (width : Nat) :
    squeeze (columnLine width "" column) = rowCode column := by
  unfold columnLine padRight
  simp only [squeeze_append, squeeze_blanks, row.word.squeeze]
  rw [show squeeze "+ " = ['+'] from rfl, show squeeze " + \" " = ['+', '"'] from rfl,
    show squeeze "" = [] from rfl, show squeeze " \"\n" = ['"'] from rfl]
  simp [rowCode]

theorem rowCode_append_inj {one other : Column} (row : Row one) (rowToo : Row other)
    (same : rowCode one ++ rest = rowCode other ++ more) : one = other ∧ rest = more := by
  simp only [rowCode, List.cons_append, List.append_assoc, List.nil_append, List.cons.injEq,
    true_and] at same
  obtain ⟨identifier, clause⟩ := row.word.append_inj rowToo.word (endsWord_cons rfl _)
    (endsWord_cons rfl _) same
  simp only [List.cons.injEq, true_and] at clause
  obtain ⟨clause, rest⟩ := marked_append_inj (clauses_unquoted _ row.clause)
    (clauses_unquoted _ rowToo.clause) clause
  refine ⟨?_, rest⟩
  cases one
  cases other
  rw [Column.mk.injEq]
  exact ⟨String.toList_injective identifier, clauses_differ _ row.clause _ rowToo.clause clause⟩

theorem rowCode_ne_last {column : Column} (row : Row column) :
    rowCode column ++ rest ≠ squeeze "+ \");\";\n" := by
  intro same
  have last : squeeze "+ \");\";\n" = '+' :: ([] ++ '"' :: [')', ';', '"', ';']) := rfl
  rw [last] at same
  simp only [rowCode, List.cons_append, List.append_assoc, List.cons.injEq, true_and] at same
  have empty : IsWord [] := fun _ none => by cases none
  exact row.named (row.word.append_inj empty (endsWord_cons rfl _) (endsWord_cons rfl _) same).1

theorem createTable_injective {one other : List Column} (rows : ∀ column ∈ punctuated one, Row column)
    (rowsToo : ∀ column ∈ punctuated other, Row column)
    (same : squeeze (createTable one) = squeeze (createTable other)) :
    createTable one = createTable other := by
  have lines {columns : List Column} (each : ∀ column ∈ punctuated columns, Row column) :
      squeeze (columnLines (identifierWidth columns) columns) =
        (punctuated columns).flatMap rowCode := by
    rw [columnLines_eq]
    exact squeeze_join_map fun column member => squeeze_columnLine (each column member) _
  unfold createTable at same ⊢
  simp only [squeeze_append] at same
  have listed := List.append_cancel_left same
  rw [lines rows, lines rowsToo] at listed
  have columns : punctuated one = punctuated other :=
    pieces_injective (fun _ _ _ _ => rowCode_append_inj) (fun _ _ => rowCode_ne_last) rows rowsToo listed
  have identifiers := congrArg (List.map Column.identifier) columns
  rw [punctuated_identifiers, punctuated_identifiers] at identifiers
  -- The padding is blank and lost, but the identifiers determine it.
  have width : identifierWidth one = identifierWidth other := by
    have sizes := congrArg (List.map String.utf8ByteSize) identifiers
    rw [List.map_map, List.map_map] at sizes
    exact congrArg (fun sizes => sizes.foldl max 0 + 3) sizes
  rw [columnLines_eq, columnLines_eq, columns, width]

end Table

section Cursor

def readers : List ColumnReader :=
  [.byte, .boxedByte, .short, .int, .long, .double, .float, .blob, .boolean, .boxedBoolean,
   .timestamp, .string]

theorem mem_readers (reader : ColumnReader) : reader ∈ readers := by
  cases reader <;> decide

theorem expressions_differ : ∀ one ∈ readers, ∀ other ∈ readers,
    squeeze one.expression = squeeze other.expression → one = other := by
  decide

theorem expressions_unended : ∀ reader ∈ readers, ';' ∉ squeeze reader.expression := by decide

/-- What a branch of the chain is made from. -/
structure Branch (branch : CursorBranch) : Prop where
  word : IsWord branch.identifier.toList
  field : IsWord branch.field.toList

/-- A branch with the `else` before it. -/
def branchCode (branch : CursorBranch) : List Char :=
  "elseif(".toList ++ (branch.identifier.toList ++ '.' :: ("equals(colname))\x7bthis.".toList ++
    (branch.field.toList ++ '=' :: (squeeze branch.reader.expression ++ ';' :: ['\x7d']))))

theorem squeeze_branch {branch : CursorBranch} (made : Branch branch) :
    "else".toList ++ squeeze branch.text = branchCode branch := by
  unfold CursorBranch.text branchCode
  simp only [squeeze_append, made.word.squeeze, made.field.squeeze]
  rw [show squeeze "if (" = "if(".toList from rfl,
    show squeeze ".equals(colname))\x7b\n            this." =
      '.' :: "equals(colname))\x7bthis.".toList from rfl,
    show squeeze " = " = ['='] from rfl, show squeeze ";\n        \x7d" = [';', '\x7d'] from rfl]
  simp only [List.append_assoc, List.cons_append, List.nil_append]
  rfl

theorem branchCode_append_inj {one other : CursorBranch} (made : Branch one) (madeToo : Branch other)
    (same : branchCode one ++ rest = branchCode other ++ more) : one = other ∧ rest = more := by
  unfold branchCode at same
  simp only [List.cons_append, List.append_assoc, List.nil_append] at same
  obtain ⟨identifier, tail⟩ := made.word.append_inj madeToo.word (endsWord_cons rfl _)
    (endsWord_cons rfl _) (List.append_cancel_left same)
  obtain ⟨field, tail⟩ := made.field.append_inj madeToo.field (endsWord_cons rfl _)
    (endsWord_cons rfl _) (List.append_cancel_left (List.cons.inj tail).2)
  obtain ⟨expression, tail⟩ := marked_append_inj (expressions_unended _ (mem_readers _))
    (expressions_unended _ (mem_readers _)) (List.cons.inj tail).2
  refine ⟨?_, (List.cons.inj tail).2⟩
  cases one
  cases other
  rw [CursorBranch.mk.injEq]
  exact ⟨String.toList_injective identifier, String.toList_injective field,
    expressions_differ _ (mem_readers _) _ (mem_readers _) expression⟩

/-- What ends the chain: the warning under a tag. -/
def warningCode (logTag : String) : List Char :=
  squeeze " else \x7b\n            android.util.Log.w(" ++
    (squeeze logTag ++ squeeze ", \"Unknown column name: \" + colname);\n        \x7d\n")

theorem squeeze_cursorChain (logTag : String) {first : CursorBranch} {more : List CursorBranch}
    (made : ∀ branch ∈ first :: more, Branch branch) :
    "else".toList ++ squeeze (cursorChain logTag (first :: more)) =
      (first :: more).flatMap branchCode ++ warningCode logTag := by
  have others : squeeze (String.join (more.map fun branch => " else " ++ branch.text)) =
      more.flatMap branchCode := by
    refine squeeze_join_map fun branch member => ?_
    rw [squeeze_append, ← squeeze_branch (made branch (List.mem_cons_of_mem _ member))]
    rfl
  unfold cursorChain warningCode
  simp only [squeeze_append, others, List.append_assoc]
  rw [List.flatMap_cons, ← squeeze_branch (made first List.mem_cons_self), List.append_assoc,
    List.append_assoc, show squeeze "        " = [] from rfl, List.nil_append]

theorem squeeze_cursorChain_ne_nil (logTag : String) {first : CursorBranch} {more : List CursorBranch}
    (made : ∀ branch ∈ first :: more, Branch branch) :
    squeeze (cursorChain logTag (first :: more)) ≠ [] := by
  intro empty
  have size := congrArg List.length (squeeze_cursorChain logTag made)
  rw [empty, List.flatMap_cons] at size
  unfold branchCode at size
  simp only [List.length_append, show "else".toList.length = 4 from rfl,
    show "elseif(".toList.length = 7 from rfl, List.length_nil] at size
  omega

/-- Under one tag. -/
theorem cursorDeserializer_injective {logTag : String} {one other : List CursorBranch}
    (made : ∀ branch ∈ one, Branch branch) (madeToo : ∀ branch ∈ other, Branch branch)
    (same : squeeze (cursorDeserializer logTag one) = squeeze (cursorDeserializer logTag other)) :
    cursorDeserializer logTag one = cursorDeserializer logTag other := by
  have chains : squeeze (cursorChain logTag one) = squeeze (cursorChain logTag other) := by
    unfold cursorDeserializer at same
    simp only [squeeze_append] at same
    exact List.append_cancel_left (List.append_cancel_right same)
  have branches : one = other := by
    cases one with
    | nil =>
      cases other with
      | nil => rfl
      | cons first more => exact absurd chains.symm (squeeze_cursorChain_ne_nil logTag madeToo)
    | cons first more =>
      cases other with
      | nil => exact absurd chains (squeeze_cursorChain_ne_nil logTag made)
      | cons second others =>
        have codes := congrArg ("else".toList ++ ·) chains
        simp only [squeeze_cursorChain logTag made, squeeze_cursorChain logTag madeToo] at codes
        -- The tag may hold anything, so it is taken away before the branches are read.
        have read := congrArg (· ++ []) (List.append_cancel_right codes)
        refine pieces_injective (fun _ _ _ _ => branchCode_append_inj) (fun branch rest _ none => ?_)
          made madeToo read
        unfold branchCode at none
        simp at none
  rw [branches]

end Cursor

section Values

def suffixCode : ValueConversion → List Char
  | .verbatim => []
  | .booleanAsInt => "?1:0".toList
  | .epochMillis => ".getTime()".toList

theorem squeeze_apply (conversion : ValueConversion) (word : IsWord name.toList) :
    squeeze (conversion.apply name) = name.toList ++ suffixCode conversion := by
  unfold ValueConversion.apply suffixCode
  cases conversion with
  | verbatim => rw [word.squeeze, List.append_nil]
  | booleanAsInt => rw [squeeze_append, word.squeeze, show squeeze " ? 1 : 0" = "?1:0".toList from rfl]
  | epochMillis =>
    rw [squeeze_append, word.squeeze, show squeeze ".getTime()" = ".getTime()".toList from rfl]

theorem endsWord_suffixCode (conversion : ValueConversion) (rest : List Char) :
    EndsWord (suffixCode conversion ++ ')' :: rest) := by
  cases conversion with
  | verbatim => exact endsWord_cons rfl _
  | booleanAsInt => exact endsWord_cons (c := '?') rfl _
  | epochMillis => exact endsWord_cons (c := '.') rfl _

theorem suffixCode_append_inj {one other : ValueConversion}
    (same : suffixCode one ++ ')' :: rest = suffixCode other ++ ')' :: more) :
    one = other ∧ rest = more := by
  unfold suffixCode at same
  cases one <;> cases other <;> simp_all

/-- What an entry of the content values is made from. -/
structure Entry (entry : ContentEntry) : Prop where
  word : IsWord entry.identifier.toList
  field : IsWord entry.field.toList

def putCode (entry : ContentEntry) : List Char :=
  "args.put(".toList ++ (entry.identifier.toList ++ ',' :: (entry.field.toList ++
    (suffixCode entry.conversion ++ ')' :: [';'])))

def entryCode (entry : ContentEntry) : List Char :=
  if entry.guarded then
    "if(this.".toList ++ (entry.field.toList ++ '!' :: ("=null)".toList ++ putCode entry))
  else putCode entry

theorem squeeze_entry {entry : ContentEntry} (made : Entry entry) :
    squeeze entry.text = entryCode entry := by
  have put : squeeze ("args.put(" ++ entry.identifier ++ ", " ++ entry.conversion.apply entry.field ++
      ");\n") = putCode entry := by
    simp only [squeeze_append, made.word.squeeze, squeeze_apply _ made.field]
    rw [show squeeze "args.put(" = "args.put(".toList from rfl, show squeeze ", " = [','] from rfl,
      show squeeze ");\n" = [')', ';'] from rfl]
    unfold putCode
    simp only [List.append_assoc, List.cons_append, List.nil_append]
  unfold ContentEntry.text entryCode
  split
  · simp only [squeeze_append, made.field.squeeze] at put ⊢
    rw [put]
    simp only [List.append_assoc]
    rfl
  · simp only [squeeze_append] at put ⊢
    rw [put]
    rfl

theorem putCode_append_inj {one other : ContentEntry} (made : Entry one) (madeToo : Entry other)
    (same : putCode one ++ rest = putCode other ++ more) :
    (one.identifier = other.identifier ∧ one.field = other.field ∧ one.conversion = other.conversion) ∧
      rest = more := by
  unfold putCode at same
  simp only [List.append_assoc, List.cons_append, List.nil_append] at same
  obtain ⟨identifier, tail⟩ := made.word.append_inj madeToo.word (endsWord_cons rfl _)
    (endsWord_cons rfl _) (List.append_cancel_left same)
  obtain ⟨field, tail⟩ := made.field.append_inj madeToo.field (endsWord_suffixCode _ _)
    (endsWord_suffixCode _ _) (List.cons.inj tail).2
  obtain ⟨conversion, tail⟩ := suffixCode_append_inj tail
  exact ⟨⟨String.toList_injective identifier, String.toList_injective field, conversion⟩,
    (List.cons.inj tail).2⟩

theorem entryCode_append_inj {one other : ContentEntry} (made : Entry one) (madeToo : Entry other)
    (same : entryCode one ++ rest = entryCode other ++ more) : one = other ∧ rest = more := by
  have guards : one.guarded = other.guarded := by
    unfold entryCode putCode at same
    cases guarded : one.guarded <;> cases guardedToo : other.guarded <;>
      simp [guarded, guardedToo] at same ⊢
  have puts : putCode one ++ rest = putCode other ++ more := by
    unfold entryCode at same
    rw [← guards] at same
    split at same
    · simp only [List.append_assoc, List.cons_append] at same
      obtain ⟨_, tail⟩ := made.field.append_inj madeToo.field (endsWord_cons rfl _)
        (endsWord_cons rfl _) (List.append_cancel_left same)
      exact List.append_cancel_left (List.cons.inj tail).2
    · exact same
  obtain ⟨⟨identifier, field, conversion⟩, tail⟩ := putCode_append_inj made madeToo puts
  refine ⟨?_, tail⟩
  cases one
  cases other
  rw [ContentEntry.mk.injEq]
  exact ⟨identifier, field, conversion, guards⟩

theorem entryCode_ne_last (entry : ContentEntry) (rest : List Char) :
    entryCode entry ++ rest ≠ squeeze "    return args;\n\x7d\n" := by
  intro same
  rw [show squeeze "    return args;\n\x7d\n" = 'r' :: "eturnargs;\x7d".toList from rfl] at same
  unfold entryCode putCode at same
  split at same <;> simp at same

theorem contentValues_injective {one other : List ContentEntry} (made : ∀ entry ∈ one, Entry entry)
    (madeToo : ∀ entry ∈ other, Entry entry)
    (same : squeeze (contentValues one) = squeeze (contentValues other)) :
    contentValues one = contentValues other := by
  have entries {entries : List ContentEntry} (each : ∀ entry ∈ entries, Entry entry) :
      squeeze (String.join (entries.map ContentEntry.text)) = entries.flatMap entryCode :=
    squeeze_join_map fun entry member => squeeze_entry (each entry member)
  have listed : one = other := by
    unfold contentValues at same
    simp only [squeeze_append, entries made, entries madeToo, List.append_assoc] at same
    have read := List.append_cancel_left (List.append_cancel_left same)
    exact pieces_injective (fun _ _ _ _ => entryCode_append_inj)
      (fun entry rest _ => entryCode_ne_last entry rest) made madeToo read
  rw [listed]

end Values

section Members
variable {options : Options} {c d : DataClass} {fields others : List TypedField}

theorem mem_punctuated (member : column ∈ punctuated columns) : ∃ plain ∈ columns,
    column.identifier = plain.identifier ∧
      (column.clause = plain.clause ∨ column.clause = plain.clause ++ ",") := by
  induction columns with
  | nil => cases member
  | cons first more ih =>
    cases more with
    | nil =>
      obtain rfl := List.mem_singleton.mp member
      exact ⟨column, List.mem_cons_self, rfl, .inl rfl⟩
    | cons second more =>
      rcases List.mem_cons.mp member with rfl | later
      · exact ⟨first, List.mem_cons_self, rfl, .inr rfl⟩
      · obtain ⟨plain, among, same⟩ := ih later
        exact ⟨plain, List.mem_cons_of_mem _ among, same⟩

theorem Column.ofField_clause (typed : TypedField) : (Column.ofField typed).clause ∈
    [SqlType.blob.clause, SqlType.integer.clause, SqlType.text.clause, primaryKeyClause] := by
  unfold Column.ofField
  dsimp only
  split
  · simp
  · cases SqlType.ofType typed.type <;> simp

theorem isWord_of_mem_identifiers (valid : c.validate = .ok ()) :
    ∀ identifier ∈ c.identifiers, IsWord identifier.toList := by
  intro identifier member
  obtain ⟨field, declared, rfl⟩ := List.mem_map.mp member
  exact Identifier.isWord_ofField
    (Identifier.isWord_of_isLegal (DataClass.isLegal_field valid field declared))

theorem row_of_mem (words : ∀ typed ∈ fields, IsWord typed.field.name.toList) :
    ∀ column ∈ punctuated (fields.map Column.ofField), Row column := by
  intro column member
  obtain ⟨plain, among, identifier, clause⟩ := mem_punctuated member
  obtain ⟨typed, declared, rfl⟩ := List.mem_map.mp among
  refine ⟨?_, ?_, ?_⟩
  · rw [identifier]
    exact Identifier.isWord_ofField (words typed declared)
  · rw [identifier]
    exact Identifier.ofField_ne_nil _
  · rcases clause with plain | comma
    · rw [plain]
      exact List.mem_append_left _ (Column.ofField_clause typed)
    · rw [comma]
      exact List.mem_append_right _ (List.mem_map_of_mem (Column.ofField_clause typed))

theorem branch_of_mem (words : ∀ typed ∈ fields, IsWord typed.field.name.toList) :
    ∀ branch ∈ fields.map CursorBranch.ofField, Branch branch := by
  intro branch member
  obtain ⟨typed, declared, rfl⟩ := List.mem_map.mp member
  exact ⟨Identifier.isWord_ofField (words typed declared), words typed declared⟩

theorem entry_of_mem (words : ∀ typed ∈ fields, IsWord typed.field.name.toList) :
    ∀ entry ∈ fields.map ContentEntry.ofField, Entry entry := by
  intro entry member
  obtain ⟨typed, declared, rfl⟩ := List.mem_map.mp member
  exact ⟨Identifier.isWord_ofField (words typed declared), words typed declared⟩

theorem isWord_of_typedFields (valid : c.validate = .ok ()) (typed : c.typedFields = .ok fields) :
    ∀ typed ∈ fields, IsWord typed.field.name.toList := fun field among =>
  Identifier.isWord_of_isLegal (DataClass.isLegal_of_typedFields valid typed field among)

/-- Two accepted classes whose members under a key agree up to blanks have the same member there. -/
theorem text_eq_of_squeeze_eq (valid : c.validate = .ok ()) (typed : c.typedFields = .ok fields)
    (validToo : d.validate = .ok ()) (typedToo : d.typedFields = .ok others)
    (member : one ∈ (artifacts options c fields).members)
    (memberToo : other ∈ (artifacts options d others).members) (key : one.key = other.key)
    (same : squeeze one.text = squeeze other.text) : one.text = other.text := by
  have mine := isWord_of_typedFields valid typed
  have theirs := isWord_of_typedFields validToo typedToo
  simp only [Artifacts.members, List.mem_cons, List.not_mem_nil, or_false] at member memberToo
  rcases member with rfl | rfl | rfl | rfl <;> rcases memberToo with rfl | rfl | rfl | rfl <;>
    dsimp only at key same ⊢
  -- Members of different kinds are under different keys.
  all_goals try exact absurd key (by decide)
  · exact fullProjection_injective (isWord_of_mem_identifiers valid) (isWord_of_mem_identifiers validToo) same
  · exact createTable_injective (row_of_mem mine) (row_of_mem theirs) same
  · exact cursorDeserializer_injective (branch_of_mem mine) (branch_of_mem theirs) same
  · exact contentValues_injective (entry_of_mem mine) (entry_of_mem theirs) same

end Members

end Boilerplate.Schema
