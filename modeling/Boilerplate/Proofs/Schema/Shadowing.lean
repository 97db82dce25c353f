import Boilerplate.Proofs.Schema.Columns
import Boilerplate.Proofs.Text.Locals

/-! What the names in the content values stand for. A name without a qualifier stands for a local
variable before it stands for a field, so the method is gone through line by line with the variables
declared so far. It declares one itself, which hides the field of that name. -/
namespace Boilerplate
namespace Schema
open Text
open Java (readLocal readLocal_eq_none)
open Identifier (IsWord EndsWord endsWord_cons reservedWords)

section Scope

/-- What a line does. -/
inductive Line where
  | declares (name : String)
  | puts (key value : String)
  | other
deriving DecidableEq, Repr

def readLine (line : String) : Line :=
  let call := readPut none (String.ofList (skipBlanks line.toList))
  ((readLocal line).map Line.declares <|> call.map fun put => Line.puts put.key put.value).getD .other

/-- A call that puts a value under a key, with the local variables declared before it. -/
structure ScopedPut where
  locals : List String
  key : String
  value : String
deriving DecidableEq, Repr

def scopedPuts (locals : List String) : List Line → List ScopedPut
  | [] => []
  | .declares name :: more => scopedPuts (name :: locals) more
  | .puts key value :: more => ⟨locals, key, value⟩ :: scopedPuts locals more
  | .other :: more => scopedPuts locals more

/-- The calls of a method. -/
def readScopedPuts (text : String) : List ScopedPut := scopedPuts [] ((lines text).map readLine)

/-- What a name stands for. -/
inductive Referent where
  | localVariable (name : String)
  | field (name : String)
deriving DecidableEq, Repr

/-- What the name stands for that a value begins with. -/
def ScopedPut.source (put : ScopedPut) : Referent :=
  match after? "this." put.value with
  | some rest => .field (takeName rest).1
  | none =>
    let name := (takeName put.value).1
    if name ∈ put.locals then .localVariable name else .field name

end Scope

section Lines

theorem readLocal_guard (rest : String) : readLocal ("    if (this." ++ rest) = none := by
  have start : skipBlanks ("    if (this." ++ rest).toList =
      "if".toList ++ ([' '] ++ '(' :: ("this.".toList ++ rest.toList)) := by
    rw [String.toList_append]
    rfl
  exact readLocal_eq_none start (.inr rfl) (List.all_eq_true.mp (by decide)) rfl

theorem readLocal_call {front : String} (blank : Blanks front.toList) (rest : String) :
    readLocal (front ++ ("args.put(" ++ rest)) = none := by
  have start : skipBlanks (front ++ ("args.put(" ++ rest)).toList =
      "args.put".toList ++ ([] ++ '(' :: rest.toList) := by
    rw [String.toList_append, skipBlanks_append blank, String.toList_append]
    rfl
  exact readLocal_eq_none start (.inl rfl) (List.all_eq_true.mp (by decide)) rfl

theorem readLine_call {front : String} (blank : Blanks front.toList) {entry : ContentEntry}
    (made : Entry entry) : readLine (front ++ entry.call) =
      .puts entry.identifier (entry.conversion.apply entry.field) := by
  have call : String.ofList (skipBlanks (front ++ entry.call).toList) = entry.call := by
    apply String.toList_injective
    rw [String.toList_ofList, String.toList_append, skipBlanks_append blank, ContentEntry.call,
      String.toList_append]
    rfl
  have undeclared : readLocal (front ++ entry.call) = none := readLocal_call blank _
  rw [readLine, undeclared, call, readPut_call made none]
  rfl

theorem readLine_guard (rest : String) : readLine ("    if (this." ++ rest) = .other := by
  have apart : "args.put(".toList.isPrefixOf? (skipBlanks ("    if (this." ++ rest).toList) = none := by
    rw [String.toList_append]
    rfl
  have none : after? "args.put(" (String.ofList (skipBlanks ("    if (this." ++ rest).toList)) = none := by
    rw [after?, String.toList_ofList (l := skipBlanks _), apart]
    rfl
  rw [readLine, readLocal_guard, readPut, none]
  rfl

/-- What is to be read of an entry where those variables are declared. -/
def ContentEntry.scoped (locals : List String) (entry : ContentEntry) : ScopedPut :=
  ⟨locals, entry.identifier, entry.conversion.apply entry.field⟩

theorem scopedPuts_entries {entries : List ContentEntry} (made : ∀ entry ∈ entries, Entry entry)
    (locals : List String) (rest : List Line) :
    scopedPuts locals ((entries.flatMap ContentEntry.lines).map readLine ++ rest) =
      entries.map (ContentEntry.scoped locals) ++ scopedPuts locals rest := by
  have shallow : Blanks "    ".toList := by simp [Blanks, isBlank]
  have deep : Blanks "        ".toList := by simp [Blanks, isBlank]
  induction entries with
  | nil => rfl
  | cons entry more ih =>
    have own := made entry List.mem_cons_self
    have later := ih fun other member => made other (List.mem_cons_of_mem _ member)
    rw [List.flatMap_cons, List.map_append, List.append_assoc, ContentEntry.lines, List.map_cons,
      List.cons_append, ← later]
    split
    · rw [List.map_cons, List.map_singleton, readLine_guard, readLine_call deep own]
      rfl
    · rw [List.map_singleton, readLine_call shallow own]
      rfl

/-- Every call comes after the declaration of the one local variable. -/
theorem readScopedPuts_contentValues {entries : List ContentEntry}
    (made : ∀ entry ∈ entries, Entry entry) :
    readScopedPuts (contentValues entries) = entries.map (ContentEntry.scoped ["args"]) := by
  have head : contentHead = unlines ["public android.content.ContentValues getDbContentValues() \x7b",
      "    android.content.ContentValues args = new android.content.ContentValues();"] := by
    decide +kernel
  have start : ["public android.content.ContentValues getDbContentValues() \x7b",
      "    android.content.ContentValues args = new android.content.ContentValues();"].map readLine =
        [.other, .declares "args"] := by
    decide +kernel
  have foot : scopedPuts ["args"] ((["    return args;", "\x7d"] ++ [""]).map readLine) = [] := by
    decide +kernel
  rw [readScopedPuts, contentValues_eq, head, lines_unlines_append (by decide),
    lines_unlines (oneLine_entries made), List.append_assoc, List.map_append, List.map_append, start,
    List.cons_append, List.singleton_append, scopedPuts, scopedPuts, scopedPuts_entries made, foot,
    List.append_nil]

end Lines

section Source
variable {name : String} {field : Field}

theorem takeName_apply (word : IsWord name.toList) (conversion : ValueConversion) :
    (takeName (conversion.apply name)).1 = name := by
  cases conversion with
  | verbatim =>
    have read := takeName_append word "" (fun _ first => by cases first)
    rw [String.append_empty] at read
    rw [ValueConversion.apply, read]
  | booleanAsInt => rw [ValueConversion.apply, takeName_append word " ? 1 : 0" (endsWord_cons rfl _)]
  | epochMillis => rw [ValueConversion.apply, takeName_append word ".getTime()" (endsWord_cons rfl _)]

/-- A name is never the qualifier, which is a reserved word. -/
theorem apply_unqualified (legal : Identifier.Legal name) (conversion : ValueConversion) :
    after? "this." (conversion.apply name) = none := by
  by_contra qualified
  obtain ⟨rest, found⟩ := Option.ne_none_iff_exists'.mp qualified
  have ends : EndsWord ("." ++ rest).toList := by
    rw [String.toList_append]
    exact endsWord_cons rfl _
  have word : IsWord "this".toList := List.all_eq_true.mp (by decide)
  have reserved : "this" ∈ reservedWords := by decide
  have read := takeName_apply legal.isWord conversion
  rw [append_of_after? found, show "this." = "this" ++ "." from rfl, String.append_assoc,
    takeName_append word _ ends] at read
  exact legal.free (read ▸ reserved)

/-- The call stores what the field holds under the constant of the field, unless the field goes by the
name of the method's own variable. -/
structure ScopedPut.Stores (put : ScopedPut) (field : Field) : Prop where
  key : put.key = field.identifier
  source : put.source = if field.name = "args" then .localVariable "args" else .field field.name

theorem scoped_stores {typed : TypedField} (legal : Identifier.Legal typed.field.name) :
    ((ContentEntry.ofField typed).scoped ["args"]).Stores typed.field := by
  refine ⟨rfl, ?_⟩
  have unqualified := apply_unqualified legal (ValueConversion.ofType typed.type)
  have name := takeName_apply legal.isWord (ValueConversion.ofType typed.type)
  simp only [ScopedPut.source, ContentEntry.scoped, ContentEntry.ofField, unqualified, name,
    List.mem_singleton]
  split
  · next hidden => rw [hidden]
  · rfl

end Source
end Schema

/-- A class with a field that is named like the method's own variable. -/
def DataClass.command : DataClass := ⟨"Command", [⟨"args", "String", false⟩], false⟩

namespace Generator
open Schema

/-- In the content values of an accepted class a name stands for the field that is stored, unless it is
the name of the one local variable. -/
theorem values_from_fields (g : Generator) {c : DataClass} (valid : c.validate = .ok ()) :
    ∃ artifacts, g.schemaArtifacts c = .ok artifacts ∧
      List.Forall₂ ScopedPut.Stores (readScopedPuts artifacts.contentValues) c.fields := by
  obtain ⟨fields, typed⟩ := DataClass.typedFields_ok valid
  have made := entry_of_mem (isWord_of_typedFields valid typed)
  refine ⟨_, schemaArtifacts_eq_ok_iff.mpr ⟨valid, fields, typed, rfl⟩, ?_⟩
  have puts : readScopedPuts (contentValues (fields.map ContentEntry.ofField)) = _ :=
    readScopedPuts_contentValues made
  rw [artifacts, puts, List.map_map]
  exact DataClass.forall₂_typedFields typed fun field member =>
    scoped_stores (Identifier.isLegal_iff.mp (DataClass.isLegal_of_typedFields valid typed field member))

theorem values_from_fields_point : DataClass.point.validate = .ok () ∧
    ∃ artifacts,
      Generator.schemaArtifacts ⟨.ofRegistry .empty, ⟨"TAG", "check"⟩⟩ .point = .ok artifacts ∧
      List.Forall₂ ScopedPut.Stores (readScopedPuts artifacts.contentValues) DataClass.point.fields :=
  ⟨DataClass.point_valid, values_from_fields _ DataClass.point_valid⟩

/-- The value that is put is the collection of values itself. -/
theorem args_hidden : DataClass.command.validate = .ok () ∧
    ∃ artifacts,
      Generator.schemaArtifacts ⟨.ofRegistry .empty, ⟨"TAG", "check"⟩⟩ .command = .ok artifacts ∧
      (readScopedPuts artifacts.contentValues).map ScopedPut.source = [.localVariable "args"] := by
  have valid : DataClass.command.validate = .ok () := by rfl
  have typed : DataClass.command.typedFields =
      .ok [⟨⟨"args", "String", false⟩, ⟨JavaType.stringName, [], 0⟩⟩] := by rfl
  have puts := readScopedPuts_contentValues (entry_of_mem (isWord_of_typedFields valid typed))
  have stores := scoped_stores (Identifier.isLegal_iff.mp
    (DataClass.isLegal_of_typedFields valid typed _ List.mem_cons_self))
  refine ⟨valid, _, schemaArtifacts_eq_ok_iff.mpr ⟨valid, _, typed, rfl⟩, ?_⟩
  exact (congrArg (List.map ScopedPut.source) puts).trans (congrArg (fun source => [source]) stores.source)

end Generator
end Boilerplate
