import Boilerplate.Proofs.Merge.History
import Boilerplate.Proofs.Merge.Increment
import Boilerplate.Proofs.Schema.Legibility
import Boilerplate.Proofs.Text.JavaCode

/-! The note on a declaration that conflicts. It ends a comment of its own line: behind the declaration
of a constant, where a comment may stand already, or in front of any other member. As long as the note
has no end of a line, a reader of comments sees it and the compiler does not. -/
namespace Boilerplate

namespace Java
open Identifier (IsWord isPart)

section Words
variable {c : Char}

theorem ne_of_isPart (part : isPart c = true) (mark : Char) (other : isPart mark = false) : c ≠ mark := by
  rintro rfl
  rw [part] at other
  cases other

theorem isBlank_of_isPart (part : isPart c = true) : isBlank c = false := by
  have blanks : ([' ', '\t', '\n', '\r', '\x0c'].all fun mark => !isPart mark) = true := by decide
  rw [isBlank, List.contains_eq_mem, decide_eq_false_iff_not]
  intro blank
  have other := List.all_eq_true.mp blanks c blank
  rw [part] at other
  cases other

/-- A name leaves code in code and a string in that string. -/
theorem run_word (word : IsWord cs) {mode : Mode} (inside : mode = .code ∨ mode = .quoted '"') :
    (run mode (cs.map .plain)).2 = mode := by
  induction cs with
  | nil => rfl
  | cons c rest ih =>
    have part := word c List.mem_cons_self
    have stays : (mode.step (.plain c)).2 = mode := by
      -- A part of a name is none of the marks that change the mode.
      have slash := ne_of_isPart part '/' (by decide)
      have quote := ne_of_isPart part '"' (by decide)
      have tick := ne_of_isPart part '\'' (by decide)
      have backslash := ne_of_isPart part '\\' (by decide)
      have line := ne_of_isPart part '\n' (by decide)
      have back := ne_of_isPart part '\r' (by decide)
      rcases inside with rfl | rfl
      · simp [Mode.step, Mode.start, Glyph.plain, isBlank_of_isPart part]
      · simp [Mode.step, Glyph.plain, Glyph.endsLine, quote, backslash, line, back]
    rw [List.map_cons, run, stays]
    exact ih fun other member => word other (List.mem_cons_of_mem _ member)

end Words
end Java

namespace Constant
open Identifier (IsWord)
open Java (run)
variable {constant : Constant}

/-- The declaration without what comes after the semicolon. -/
def head (constant : Constant) : String :=
  "public static final String " ++ constant.identifier ++ " = " ++ constant.literal ++ ";"

theorem declaration_of_none (bare : constant.comment = none) :
    constant.declaration = constant.head ++ "\n" := by
  unfold declaration head
  rw [bare]
  simp only [String.append_empty]

theorem declaration_of_comment {comment : String} (given : constant.comment = some comment) :
    constant.declaration = constant.head ++ " " ++ ("//" ++ (comment ++ "\n")) := by
  have marks : " //" = " " ++ "//" := rfl
  unfold declaration head
  rw [given, marks]
  simp only [String.append_assoc]

theorem literal_of_isWord (word : IsWord constant.value.toList) :
    constant.literal = "\"" ++ (constant.value ++ "\"") := by
  have plain : constant.value.toList.flatMap escape = constant.value.toList := by
    rw [List.flatMap_congr (g := fun c => [c]) fun c member => ?_, List.flatMap_singleton']
    have quote := Java.ne_of_isPart (word c member) '"' (by decide)
    have backslash := Java.ne_of_isPart (word c member) '\\' (by decide)
    rw [escape, if_neg quote, if_neg backslash]
  apply String.toList_injective
  rw [literal, String.toList_ofList, literalChars, plain]
  simp

theorem head_chars (value : IsWord constant.value.toList) : constant.head.toList =
    "public static final String ".toList ++ (constant.identifier.toList ++
      (" = \"".toList ++ (constant.value.toList ++ "\";".toList))) := by
  unfold head
  rw [literal_of_isWord value]
  simp only [String.toList_append, List.append_assoc]
  rfl

section Names
variable (identifier : IsWord constant.identifier.toList) (value : IsWord constant.value.toList)
include identifier value

theorem head_unescaped : '\\' ∉ constant.head.toList := by
  have apart {word : List Char} (part : IsWord word) : '\\' ∉ word :=
    fun member => absurd (part _ member) (by decide)
  simp only [head_chars value, List.mem_append, not_or]
  exact ⟨by decide, apart identifier, by decide, apart value, by decide⟩

/-- The declaration is complete before the comment. -/
theorem modeAfter_head : Java.modeAfter constant.head = .code := by
  have first : (run .code ("public static final String ".toList.map .plain)).2 = .code := by decide
  have second : (run .code (" = \"".toList.map .plain)).2 = .quoted '"' := by decide
  have third : (run (.quoted '"') ("\";".toList.map .plain)).2 = .code := by decide
  rw [Java.modeAfter_eq (head_unescaped identifier value)]
  simp only [head_chars value, List.map_append, Java.run_append]
  rw [first, Java.run_word identifier (.inl rfl), second, Java.run_word value (.inr rfl), third]

theorem spaced_unescaped : '\\' ∉ (constant.head ++ " ").toList := by
  simp [head_unescaped identifier value]

theorem modeAfter_spaced : Java.modeAfter (constant.head ++ " ") = .code := by
  have before := modeAfter_head identifier value
  rw [Java.modeAfter_eq (head_unescaped identifier value)] at before
  rw [Java.modeAfter_eq (spaced_unescaped identifier value), String.toList_append, List.map_append,
    Java.run_append, before]
  rfl

/-- A comment of one line leaves the code of a constant as it is. -/
theorem code_declaration (oneLine : ∀ comment, constant.comment = some comment →
    Java.breaksLine comment = false) : Java.code constant.declaration = Java.code (constant.head ++ "\n") := by
  cases given : constant.comment with
  | none => rw [declaration_of_none given]
  | some comment =>
    have comments := Java.code_comment (spaced_unescaped identifier value)
      (modeAfter_spaced identifier value) (oneLine comment given) ""
    have blank := Java.code_blank (head_unescaped identifier value) (modeAfter_head identifier value) ""
    rw [String.append_empty] at comments blank
    rw [declaration_of_comment given, comments, String.append_assoc, blank]

end Names

/-- What stands in the comment before a note. -/
def remark (constant : Constant) : String := constant.comment.elim "" (· ++ "; ")

theorem annotate_comment (constant : Constant) (note : String) :
    (constant.annotate note).comment = some (constant.remark ++ note) := by
  unfold annotate remark
  cases constant.comment <;> simp

end Constant

namespace Schema

/-- All texts that are generated, under their keys. -/
def Artifacts.texts (artifacts : Artifacts) : List MemberText :=
  (artifacts.constants.map fun constant => ⟨constant.key, constant.declaration⟩) ++ artifacts.members

theorem isWord_identifier {c : DataClass} (valid : c.validate = .ok ())
    (member : constant ∈ constants c) : Identifier.IsWord constant.identifier.toList := by
  have among := List.mem_map_of_mem (f := Constant.identifier) member
  rw [constants_identifiers] at among
  rcases List.mem_cons.mp among with table | column
  · rw [table]
    exact List.all_eq_true.mp (by decide)
  · exact isWord_of_mem_identifiers valid _ column

theorem comment_cases {c : DataClass} (member : constant ∈ constants c) :
    constant.comment = some tableComment ∨ constant.comment = none := by
  rcases List.mem_cons.mp member with rfl | column
  · exact .inl rfl
  · obtain ⟨field, _, rfl⟩ := List.mem_map.mp column
    exact .inr rfl

/-- No remark of the generator breaks the comment. -/
theorem remark_unbroken {c : DataClass} (member : constant ∈ constants c) :
    Java.Unbroken constant.remark ∧ '\\' ∉ constant.remark.toList := by
  unfold Constant.remark
  rcases comment_cases member with given | given <;> (rw [given]; decide)

end Schema

theorem Config.note_of_validate {config : Config} (valid : config.validate = .ok ()) :
    '\n' ∉ config.options.conflictNote.toList := by
  intro line
  unfold validate at valid
  split at valid
  · cases valid
  · rw [if_pos (List.contains_iff_mem.mpr line)] at valid
    cases valid

namespace Merge

/-- The inserted text is the generated one with a note at the end of a comment. The comment begins where
code is complete, and only the note can end its line early. -/
structure Commented (note generated inserted front remark rest : String) : Prop where
  text : inserted = front ++ ("//" ++ (remark ++ (note ++ ("\n" ++ rest))))
  opened : Java.modeAfter front = .code
  unbroken : Java.Unbroken remark
  line : Java.breaksLine (remark ++ note) = Java.breaksLine note
  inside : Java.breaksLine note = false →
    Java.modeAfter (front ++ ("//" ++ (remark ++ note))) = .lineComment
  code : Java.breaksLine note = false → Java.code inserted = Java.code generated

variable {constant : Constant}

theorem commented_constant {c : DataClass} (valid : c.validate = .ok ())
    (member : constant ∈ Schema.constants c) (note : String) :
    Commented note constant.declaration (constant.annotate note).declaration (constant.head ++ " ")
      constant.remark "" := by
  have identifier := Schema.isWord_identifier valid member
  have value := Schema.isWord_of_mem_constants valid member
  have front := Constant.spaced_unescaped identifier value
  have opened := Constant.modeAfter_spaced identifier value
  obtain ⟨unbroken, unescaped⟩ := Schema.remark_unbroken member
  have line := Java.breaksLine_append unescaped unbroken note
  have given := constant.annotate_comment note
  refine ⟨?_, opened, unbroken, line,
    fun oneLine => Java.modeAfter_comment front opened (line.trans oneLine), fun oneLine => ?_⟩
  · rw [Constant.declaration_of_comment given, String.append_empty]
    simp only [String.append_assoc]
    rfl
  · have own : ∀ comment, constant.comment = some comment → Java.breaksLine comment = false := by
      intro comment stands
      rcases Schema.comment_cases member with table | none
      · rw [table] at stands
        cases stands
        decide
      · rw [none] at stands
        cases stands
    have noted : ∀ comment, (constant.annotate note).comment = some comment →
        Java.breaksLine comment = false := by
      intro comment stands
      rw [given] at stands
      cases stands
      exact line.trans oneLine
    rw [Constant.code_declaration identifier value own]
    exact Constant.code_declaration identifier value noted

theorem commented_member (note text : String) :
    Commented note text (annotated note text) "" "" text := by
  have shape : annotated note text = "//" ++ (note ++ ("\n" ++ text)) := by
    unfold annotated
    simp only [String.append_assoc]
  have empty : '\\' ∉ "".toList := by decide
  refine ⟨?_, rfl, by decide, ?_, fun oneLine => ?_, fun oneLine => ?_⟩
  · rw [shape, String.empty_append, String.empty_append]
  · rw [String.empty_append]
  · have comment := Java.modeAfter_comment empty rfl oneLine
    rw [String.empty_append] at comment
    rwa [String.empty_append, String.empty_append]
  · have comment := Java.code_comment empty rfl oneLine text
    rw [String.empty_append, String.empty_append, Java.code_line] at comment
    rw [shape, comment]

/-- Every conflicting insertion of a plan is a generated text with the note in a comment. -/
theorem commented_of_plan {t : Toolchain} {c : DataClass} {snapshot : Snapshot} {kind : ArtifactKind}
    {outcome : PlanOutcome} (planned : t.plan c snapshot kind = .ok outcome) {insertion : Insertion}
    (member : insertion ∈ outcome.plan.insertions) (conflict : insertion.conflict = true) :
    ∃ artifacts, t.generator.schemaArtifacts c = .ok artifacts ∧
      ∃ generated ∈ artifacts.texts, generated.key = insertion.member ∧
        ∃ front remark rest, Commented t.note generated.text insertion.text front remark rest := by
  obtain ⟨set, made, rfl⟩ := Toolchain.plan_eq_ok_iff.mp planned
  rw [planClass_insertions] at member
  rcases List.mem_append.mp member with base | parcel
  · obtain ⟨artifacts, schema, cases⟩ := mem_baseInsertions made base
    have valid := (Generator.schemaArtifacts_eq_ok_iff.mp schema).1
    refine ⟨artifacts, schema, ?_⟩
    rcases cases with ⟨constant, among, _, inserted⟩ | ⟨text, among, inserted⟩
    · refine ⟨⟨constant.key, constant.declaration⟩,
        List.mem_append_left _ (List.mem_map.mpr ⟨constant, among, rfl⟩), ?_⟩
      rw [Generator.schemaArtifacts_constants schema] at among
      rcases constantInsertion?_cases inserted with ⟨_, rfl⟩ | ⟨_, _, rfl⟩
      · cases conflict
      · exact ⟨rfl, _, _, _, commented_constant valid among t.note⟩
    · refine ⟨text, List.mem_append_right _ among, ?_⟩
      rcases memberInsertion?_cases inserted with ⟨_, rfl⟩ | ⟨_, rfl⟩
      · cases conflict
      · exact ⟨rfl, _, _, _, commented_member t.note text.text⟩
  · -- Members that make a class Parcelable are put in place of others, never beside them.
    obtain ⟨_, _, _, _, rfl⟩ := mem_parcelableInsertions parcel
    cases conflict

end Merge

/-- A class without fields. -/
def DataClass.mark : DataClass := ⟨"Mark", [], false⟩

/-- A class that declares another table. -/
def Snapshot.marked : Snapshot := ⟨[.field ⟨"TABLE", some "\"Old\"", none⟩], []⟩

/-- The note goes on after the end of a line. -/
def Config.returning : Config := ⟨⟨"TAG", "check\rint x = 0;"⟩, [], [], []⟩

namespace Toolchain
open Merge

/-- In every conflicting insertion the note ends a comment that begins behind complete code. As it is
written the comment is one line unless the note has a carriage return. As long as no line ends in the note
as it is read, where escapes count, the comment goes on to its end and the insertion has the code of the
text that is generated without conflict. -/
theorem notes_in_comments {config : Config} (valid : config.validate = .ok ()) {c : DataClass}
    {snapshot : Snapshot} {kind : ArtifactKind} {outcome : PlanOutcome}
    (planned : (ofConfig config).plan c snapshot kind = .ok outcome) :
    ('\\' ∉ config.options.conflictNote.toList →
      (Java.breaksLine config.options.conflictNote = false ↔ '\r' ∉ config.options.conflictNote.toList)) ∧
    ∀ insertion ∈ outcome.plan.insertions, insertion.conflict = true →
      ∃ artifacts, (ofConfig config).generator.schemaArtifacts c = .ok artifacts ∧
        ∃ generated ∈ artifacts.texts, generated.key = insertion.member ∧
          ∃ front remark rest,
            Commented config.options.conflictNote generated.text insertion.text front remark rest ∧
            (Java.Unbroken (remark ++ config.options.conflictNote) ↔
              '\r' ∉ config.options.conflictNote.toList) := by
  have line := Config.note_of_validate valid
  have unbroken : Java.Unbroken config.options.conflictNote ↔ '\r' ∉ config.options.conflictNote.toList :=
    and_iff_right line
  refine ⟨fun unescaped => (Java.breaksLine_eq_false_iff unescaped).trans unbroken,
    fun insertion member conflict => ?_⟩
  obtain ⟨artifacts, schema, generated, among, key, front, remark, rest, made⟩ :=
    commented_of_plan planned member conflict
  refine ⟨artifacts, schema, generated, among, key, front, remark, rest, made, ?_⟩
  rw [Java.unbroken_append_iff, and_iff_right made.unbroken, unbroken]

theorem exists_conflict_marked (config : Config) : ∃ outcome,
    (ofConfig config).plan .mark .marked .schema = .ok outcome ∧
      ∃ insertion ∈ outcome.plan.insertions, insertion.conflict = true ∧ insertion.text =
        ((Schema.tableConstant .mark).annotate config.options.conflictNote).declaration := by
  have valid : DataClass.mark.validate = .ok () := by rfl
  obtain ⟨artifacts, schema, made⟩ := Generator.generate_schema (g := (ofConfig config).generator) valid
  have differing : Verdict.of Snapshot.marked.declarations (Schema.tableConstant .mark) =
      .differing ⟨"TABLE", some "\"Old\"", none⟩ := by rfl
  have inserted : constantInsertion? (ofConfig config).note Snapshot.marked.declarations none
      (Schema.tableConstant .mark) = some ⟨.afterExisting (Schema.tableConstant .mark).key 0,
        (Schema.tableConstant .mark).key,
        ((Schema.tableConstant .mark).annotate config.options.conflictNote).declaration,
        some (Schema.tableConstant .mark).literal, true⟩ := by
    rw [constantInsertion?, differing]
    rfl
  have constants : artifacts.constants = [Schema.tableConstant .mark] :=
    Generator.schemaArtifacts_constants schema
  have planned {copy : Insertion} (copied : constantInsertion? (ofConfig config).note
      Snapshot.marked.declarations none (Schema.tableConstant .mark) = some copy) :
      copy ∈ (planClass (ofConfig config).note ⟨some artifacts, none⟩ .marked).insertions := by
    rw [planClass_insertions]
    refine List.mem_append_left _ (List.mem_append_left _ ?_)
    rw [constants, constantInsertions_cons, copied]
    exact List.mem_cons_self
  exact ⟨_, plan_eq_ok_iff.mpr ⟨_, made, rfl⟩, _, planned inserted, rfl, rfl⟩

theorem notes_in_comments_marked :
    Config.standard.validate = .ok () ∧ ∃ outcome, standard.plan .mark .marked .schema = .ok outcome ∧
      ∃ insertion ∈ outcome.plan.insertions, insertion.conflict = true ∧
        ∃ artifacts, standard.generator.schemaArtifacts .mark = .ok artifacts ∧
          ∃ generated ∈ artifacts.texts, generated.key = insertion.member ∧
            (∃ front remark rest,
              insertion.text = front ++ ("//" ++ (remark ++ ("TODO: verify" ++ ("\n" ++ rest)))) ∧
              Java.modeAfter (front ++ ("//" ++ (remark ++ "TODO: verify"))) = .lineComment ∧
              Java.Unbroken (remark ++ "TODO: verify")) ∧
            Java.code insertion.text = Java.code generated.text := by
  have valid : Config.standard.validate = .ok () := by rfl
  obtain ⟨outcome, planned, insertion, member, conflict, _⟩ := exists_conflict_marked .standard
  obtain ⟨plain, each⟩ := notes_in_comments valid planned
  have oneLine : Java.breaksLine "TODO: verify" = false := (plain (by decide)).mpr (by decide)
  obtain ⟨artifacts, schema, generated, among, key, front, remark, rest, made, unbroken⟩ :=
    each insertion member conflict
  exact ⟨valid, outcome, planned, insertion, member, conflict, artifacts, schema, generated, among, key,
    ⟨front, remark, rest, made.text, made.inside oneLine, unbroken.mpr (by decide)⟩, made.code oneLine⟩

/-- A carriage return gets through, and what follows it in the note is code. -/
theorem note_escapes_comment :
    Config.returning.validate = .ok () ∧ DataClass.mark.validate = .ok () ∧
      ∃ outcome, (ofConfig .returning).plan .mark .marked .schema = .ok outcome ∧
        ∃ insertion ∈ outcome.plan.insertions, insertion.conflict = true ∧ insertion.text =
          "public static final String TABLE = \"Mark\"; //TODO: verify; check\rint x = 0;\n" ∧
          Java.code insertion.text ≠ Java.code (Schema.tableConstant .mark).declaration ∧
          Java.code insertion.text = Java.code
            "public static final String TABLE = \"Mark\"; int x = 0;" := by
  obtain ⟨outcome, planned, insertion, member, conflict, text⟩ := exists_conflict_marked .returning
  have declared : ((Schema.tableConstant .mark).annotate Config.returning.options.conflictNote).declaration =
      "public static final String TABLE = \"Mark\"; //TODO: verify; check\rint x = 0;\n" := by rfl
  refine ⟨by rfl, by rfl, outcome, planned, insertion, member, conflict, ?_, ?_, ?_⟩
  · rw [text, declared]
  · rw [text, declared]
    decide +kernel
  · rw [text, declared]
    decide +kernel

end Toolchain
end Boilerplate
