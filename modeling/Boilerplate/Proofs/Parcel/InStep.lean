import Boilerplate.Proofs.Generator
import Boilerplate.Proofs.Parcel.Lines
import Boilerplate.Proofs.Strategy.Resolution
import Mathlib.Data.List.Basic

/-! The code that writes a parcel and the code that reads it stay in step. Every field is written by
one call and read by the matching one, in declaration order. Names of types stand in the code as they
are, so the parcel hides an enumeration of its name and gets the call that is meant for it. -/
namespace Boilerplate.Parcel

namespace Expr

mutual
/-- The fields of the object that a value is made from. -/
def fields : Expr → List String
  | word _ => []
  | this field => [field]
  | call receiver _ arguments => receiver.fields ++ argumentFields arguments
  | new _ arguments => argumentFields arguments
  | cast _ value => value.fields
  | equal left right => left.fields ++ right.fields
  | unequal left right => left.fields ++ right.fields
  | choose condition first second => condition.fields ++ (first.fields ++ second.fields)
  | item array index => array.fields ++ index.fields

def argumentFields : List Expr → List String
  | [] => []
  | first :: more => first.fields ++ argumentFields more
end

end Expr

/-- The arrays that a parcel carries by a method of their own. -/
def arrayCarriers : List String :=
  ["BooleanArray", "ByteArray", "CharArray", "DoubleArray", "FloatArray", "IntArray", "LongArray",
   "StringArray"]

/-- All that a value may cross a parcel as. -/
def carriers : List String :=
  ["Bundle", "Map", "Long", "SparseBooleanArray", "Int", "TypedList", "Byte", "Double", "Float",
   "String", "Value", "List", "Parcelable", "Serializable"] ++ arrayCarriers

/-- The method that reads what was written as that. -/
def readerOf (carrier : String) : String :=
  if carrier = "TypedList" then "createTypedArrayList"
  else if carrier ∈ arrayCarriers then "create" ++ carrier
  else "read" ++ carrier

/-- How statements fill a field with what a call on the source gives. -/
inductive Fills (source field : String) : List Statement → Prop where
  | assigned {value : Expr} : value.callsOn source ≠ [] → Fills source field [.assign field value]
  /-- By way of a local. -/
  | through {type temporary : String} {taken value : Expr} : taken.callsOn source ≠ [] →
      temporary ∈ value.names →
      Fills source field [.declare type temporary taken, .assign field value]
  /-- The call fills a new value of the field. -/
  | into {fresh : Expr} {method : String} {arguments : List Expr} : Fills source field
      [.assign field fresh, .run (.call (.word source) method (.this field :: arguments))]

theorem Fills.ne_nil (fills : Fills source field statements) : statements ≠ [] := by
  cases fills <;> exact List.cons_ne_nil _ _

namespace ResolvedField

def carrier (f : ResolvedField) : String := f.resolved.transfer.carrier

/-- The calls that an enumeration named like the parcel is meant to get in the read of a field. In the
constructor that name is the parcel's, which gets them. -/
def shadowed (f : ResolvedField) : List String :=
  if f.resolved.strategy = .enumeration ∧ f.resolved.type.base = "in" then ["values"] else []

/-- A field is written by one call, which is handed the field, and read by the matching call, which
fills the field. The parcel gets no further call but those of an enumeration that it hides. -/
structure InStep (f : ResolvedField) : Prop where
  carried : f.carrier ∈ carriers
  writes : f.write.callsOn "dest" = ["write" ++ f.carrier]
  passes : ∃ arguments, f.write = .run (.call (.word "dest") ("write" ++ f.carrier) arguments) ∧
    Expr.argumentFields arguments ≠ [] ∧
    ∀ field ∈ Expr.argumentFields arguments, field = f.field.name
  reads : f.read.flatMap (Statement.callsOn "in") = readerOf f.carrier :: f.shadowed
  fills : Fills "in" f.field.name f.read
  silent : ∀ statement ∈ f.write :: f.read, ∀ name ∈ statement.names, Silent name
  lines : (joinLines f.read).toList.splitOn '\n' = f.read.map fun statement => statement.text.toList

end ResolvedField

namespace Transfer

variable {transfer : Transfer} {field : Field}

theorem write_callsOn (transfer : Transfer) (field : Field) :
    (transfer.write field).callsOn "dest" = ["write" ++ transfer.carrier] := by
  have arguments : Expr.argumentCallsOn "dest" (transfer.written field.name) = [] := by
    cases transfer <;> simp [written, Expr.argumentCallsOn, Expr.callsOn, Expr.isWord]
  simp [write, destination, Statement.callsOn, Statement.value, Expr.callsOn, Expr.isWord, arguments]

theorem written_fields (transfer : Transfer) (field : String) :
    Expr.argumentFields (transfer.written field) ≠ [] ∧
      ∀ other ∈ Expr.argumentFields (transfer.written field), other = field := by
  cases transfer <;> simp [written, Expr.argumentFields, Expr.fields]

theorem carrier_mem (known : transfer.Known) : transfer.carrier ∈ carriers := by
  cases transfer with
  | direct suffix =>
    exact (by decide : ∀ suffix ∈ Strategy.directSuffixes.map Prod.snd, suffix ∈ carriers) _ known
  | array suffix =>
    exact (by decide : ∀ suffix ∈ Strategy.arraySuffixes.map Prod.snd,
      suffix ++ "Array" ∈ carriers) _ known
  | _ =>
    dsimp only [carrier]
    decide

/-- The calls in a read that are meant for an enumeration but written on the parcel's name. -/
def shadowed : Transfer → List String
  | ordinal enumeration => if enumeration = "in" then ["values"] else []
  | _ => []

theorem classLoader_callsOn (erasure : String) : (Expr.classLoader erasure).callsOn "in" = [] := by
  have apart : erasure ++ ".class" ≠ "in" := by
    intro same
    have size := congrArg (fun s => s.toList.length) same
    simp only [String.toList_append, List.length_append, show ".class".toList.length = 6 from rfl,
      show "in".toList.length = 2 from rfl] at size
    omega
  simp [Expr.classLoader, Expr.callsOn, Expr.isWord, Expr.argumentCallsOn, apart]

theorem read_callsOn (known : transfer.Known) (field : Field) :
    (transfer.read field).flatMap (Statement.callsOn "in") =
      readerOf transfer.carrier :: transfer.shadowed := by
  cases transfer with
  | direct suffix =>
    have reader : readerOf suffix = "read" ++ suffix :=
      (by decide : ∀ suffix ∈ Strategy.directSuffixes.map Prod.snd,
        readerOf suffix = "read" ++ suffix) _ known
    simp [read, take, source, Statement.callsOn, Statement.value, Expr.callsOn, Expr.argumentCallsOn,
      Expr.isWord, carrier, shadowed, reader]
  | array suffix =>
    have reader : readerOf (suffix ++ "Array") = "create" ++ suffix ++ "Array" :=
      (by decide : ∀ suffix ∈ Strategy.arraySuffixes.map Prod.snd,
        readerOf (suffix ++ "Array") = "create" ++ suffix ++ "Array") _ known
    simp [read, take, source, Statement.callsOn, Statement.value, Expr.callsOn, Expr.argumentCallsOn,
      Expr.isWord, carrier, shadowed, reader]
  | ordinal enumeration =>
    simp only [read, readThrough, take, source, List.flatMap_cons, List.flatMap_nil, Statement.callsOn,
      Statement.value, Expr.callsOn, Expr.argumentCallsOn, Expr.isWord, carrier, shadowed, beq_iff_eq,
      beq_self_eq_true, if_true, List.nil_append, List.append_nil]
    rfl
  | _ =>
    simp [read, readThrough, readInto, take, source, Statement.callsOn, Statement.value,
      Expr.callsOn, Expr.argumentCallsOn, Expr.isWord, carrier, shadowed, classLoader_callsOn]
    decide

theorem read_fills (transfer : Transfer) (field : Field) :
    Fills "in" field.name (transfer.read field) := by
  cases transfer with
  | map => exact .into
  | list => exact .into
  | epoch => exact .through (by simp [take, source, Expr.callsOn, Expr.isWord]) (by simp [Expr.names])
  | ordinal => exact .through (by simp [take, source, Expr.callsOn, Expr.isWord]) (by simp [Expr.names])
  | _ => exact .assigned (by simp [take, source, Expr.callsOn, Expr.isWord])

/-- The texts that the code for a field takes from its type. -/
def texts : Transfer → List String
  | map key value => [key.text, value.text, value.erasure]
  | ordinal enumeration => [enumeration]
  | typedList element => [element]
  | direct suffix => [suffix]
  | widened type => [type]
  | boxed type => [type.text, type.erasure]
  | array suffix => [suffix]
  | list element => [element.text, element.erasure]
  | parcelable type => [type.erasure]
  | serializable type => [type.text]
  | _ => []

theorem silent_texts (legal : transfer.Legal) (known : transfer.Known) :
    ∀ text ∈ transfer.texts, Silent text := by
  have text {type : JavaType} (legal : type.Legal) : Silent type.text :=
    silent_of_typeCharacters legal.mem_text
  have erasure {type : JavaType} (legal : type.Legal) : Silent type.erasure :=
    silent_of_typeCharacters legal.mem_erasure
  cases transfer with
  | map key value => simp [texts, text legal.1, text legal.2, erasure legal.2]
  | ordinal enumeration => simpa [texts] using silent_of_name legal
  | typedList element => simpa [texts] using silent_of_name legal
  | direct suffix =>
    simpa [texts] using (by decide : ∀ suffix ∈ Strategy.directSuffixes.map Prod.snd,
      Silent suffix) _ known
  | widened type =>
    rcases known with rfl | rfl <;> decide
  | boxed type => simp [texts, text legal, erasure legal]
  | array suffix =>
    simpa [texts] using (by decide : ∀ suffix ∈ Strategy.arraySuffixes.map Prod.snd,
      Silent suffix) _ known
  | list element => simp [texts, text legal, erasure legal]
  | parcelable type => simp [texts, erasure legal]
  | serializable type => simp [texts, text legal]
  | _ => simp [texts]

theorem silent_names (legal : transfer.Legal) (known : transfer.Known)
    (word : Identifier.IsWord field.name.toList) :
    ∀ statement ∈ transfer.write field :: transfer.read field, ∀ name ∈ statement.names, Silent name := by
  have own := silent_of_word word
  have temporary := silent_of_word (Identifier.isWord_temporary word)
  have taken := silent_texts legal known
  -- What is left after the field and the type are words of the generator.
  cases transfer <;>
    simp only [texts, List.mem_cons, List.not_mem_nil, or_false, forall_eq_or_imp, forall_eq] at taken <;>
    simp only [write, written, read, readThrough, readInto, take, source, destination, Expr.classLoader,
      Statement.names, Expr.names, Expr.argumentNames, List.mem_cons, List.not_mem_nil, or_false,
      forall_eq_or_imp, forall_eq, List.append_nil, List.nil_append, List.cons_append,
      carrier, silent_append_iff, own, temporary, taken, true_and, and_true] <;>
    decide

end Transfer

section Fields
variable {strategy : Strategy} {type : JavaType}

theorem primitiveTransfer?_shadowed {result : Transfer}
    (found : Strategy.primitiveTransfer? type = some result) : result.shadowed = [] := by
  rcases Strategy.primitiveTransfer?_cases found with ⟨_, _, rfl⟩ | rfl | ⟨_, rfl⟩ | rfl <;> rfl

/-- Only enumerations are called by their names. -/
theorem transfer_shadowed (strategy : Strategy) (type : JavaType) : (strategy.transfer type).shadowed =
    if strategy = .enumeration ∧ type.base = "in" then ["values"] else [] := by
  cases strategy with
  | mapContainer =>
    unfold Strategy.transfer
    dsimp only
    split <;> rfl
  | enumeration => simp [Strategy.transfer, Transfer.shadowed]
  | primitive =>
    unfold Strategy.transfer
    cases found : Strategy.primitiveTransfer? type with
    | none => rfl
    | some result => exact primitiveTransfer?_shadowed found
  | _ => rfl

theorem inStep_of_claims {f : ResolvedField} (legal : f.resolved.type.Legal)
    (claimed : f.resolved.strategy.claims registry f.resolved.type = true)
    (word : Identifier.IsWord f.field.name.toList) : f.InStep := by
  have known : f.resolved.transfer.Known := Strategy.transfer_known claimed
  obtain ⟨some, own⟩ := f.resolved.transfer.written_fields f.field.name
  have fills := Transfer.read_fills f.resolved.transfer f.field
  have silent := Transfer.silent_names (Strategy.transfer_legal _ legal) known word
  refine ⟨Transfer.carrier_mem known, Transfer.write_callsOn _ _, ⟨_, rfl, some, own⟩, ?_, fills,
    silent, splitOn_joinLines fills.ne_nil fun _ member => silent _ (List.mem_cons_of_mem _ member)⟩
  have calls := Transfer.read_callsOn known f.field
  rwa [Resolved.transfer, transfer_shadowed] at calls

end Fields
end Boilerplate.Parcel

namespace Boilerplate

/-- A class with a number and an enumeration of that name. -/
def DataClass.holder (enumeration : String) : DataClass :=
  ⟨"Holder", [⟨"count", "int", true⟩, ⟨"kind", enumeration, false⟩], false⟩

namespace Generator
open Parcel

/-- The generator of a host that has one enumeration. -/
def ofEnumeration (name : String) : Generator :=
  ⟨.ofRegistry (Registry.empty.withEnum name), .standard⟩

/-- Whatever a registry says and in whatever order strategies are asked: the code of a class makes one
call on the written parcel for each field, and the matching call on the parcel that is read, which gets
another call only where it hides an enumeration. -/
theorem parcel_in_step (g : Generator) {c : DataClass} {artifacts : Parcel.Artifacts}
    (made : g.parcelableArtifacts c = .ok artifacts) :
    ∃ fields : List ResolvedField, fields.map ResolvedField.field = c.fields ∧
      artifacts.writeToParcel = Parcel.writeToParcel fields ∧
      artifacts.parcelConstructor = Parcel.parcelConstructor c.name fields ∧
      (writeStatements fields).flatMap (Statement.callsOn "dest") =
        (fields.map fun f => "write" ++ f.carrier) ∧
      (readStatements fields).flatMap (Statement.callsOn "in") =
        (fields.flatMap fun f => readerOf f.carrier :: f.shadowed) ∧
      ∀ f ∈ fields, f.InStep := by
  obtain ⟨valid, rfl⟩ := parcelableArtifacts_sound made
  have inStep : ∀ f ∈ g.resolvedFields c, f.InStep := by
    intro f member
    obtain ⟨declared, success⟩ := resolveField_of_mem member
    obtain ⟨_, accepted⟩ := DataClass.accepted_of_validate valid f.field declared
    exact inStep_of_claims (Field.type_legal (Resolver.resolveField_eq_ok_iff.mp success).1)
      (Resolver.claims_of_resolveField success) (Identifier.isWord_of_isLegal accepted.legal)
  refine ⟨g.resolvedFields c, resolvedFields_fields (failures_of_parcelableArtifacts made), rfl, rfl,
    ?_, ?_, inStep⟩
  · rw [writeStatements, List.flatMap_map, ← List.flatMap_singleton' (List.map _ _), List.flatMap_map]
    exact List.flatMap_congr fun f member => (inStep f member).writes
  · rw [readStatements, List.flatMap_assoc]
    exact List.flatMap_congr fun f member => (inStep f member).reads

theorem parcel_in_step_holder :
    (ofEnumeration "Kind").parcelableArtifacts (.holder "Kind") =
      .ok (Parcel.artifacts (.holder "Kind") ((ofEnumeration "Kind").resolvedFields (.holder "Kind"))) ∧
    ∃ fields : List ResolvedField,
      fields.map ResolvedField.field = (DataClass.holder "Kind").fields ∧
      Parcel.writeToParcel ((ofEnumeration "Kind").resolvedFields (.holder "Kind")) =
        Parcel.writeToParcel fields ∧
      Parcel.parcelConstructor "Holder" ((ofEnumeration "Kind").resolvedFields (.holder "Kind")) =
        Parcel.parcelConstructor "Holder" fields ∧
      (writeStatements fields).flatMap (Statement.callsOn "dest") =
        (fields.map fun f => "write" ++ f.carrier) ∧
      (readStatements fields).flatMap (Statement.callsOn "in") =
        (fields.flatMap fun f => readerOf f.carrier :: f.shadowed) ∧
      ∀ f ∈ fields, f.InStep := by
  have made : (ofEnumeration "Kind").parcelableArtifacts (.holder "Kind") =
      .ok (Parcel.artifacts (.holder "Kind")
        ((ofEnumeration "Kind").resolvedFields (.holder "Kind"))) := by rfl
  exact ⟨made, parcel_in_step (ofEnumeration "Kind") made⟩

/-- The parcel hides the enumeration of its name: three calls on it read the two fields of a class, and
the last of them is none of its methods. -/
theorem holder_shadowed :
    (ofEnumeration "in").parcelableArtifacts (.holder "in") =
        .ok (Parcel.artifacts (.holder "in") ((ofEnumeration "in").resolvedFields (.holder "in"))) ∧
      Parcel.parcelConstructor "Holder" ((ofEnumeration "in").resolvedFields (.holder "in")) =
        "private Holder(android.os.Parcel in) \x7b\n    this.count = in.readInt();\n" ++
          "    int tmpKind = in.readInt();\n" ++
          "    this.kind = tmpKind == -1 ? null : in.values()[tmpKind];\n\x7d\n" ∧
      (DataClass.holder "in").fields.length = 2 ∧
      (readStatements ((ofEnumeration "in").resolvedFields (.holder "in"))).flatMap
        (Statement.callsOn "in") = ["readInt", "readInt", "values"] := by
  refine ⟨?_, ?_, ?_, ?_⟩
  · rfl
  · rfl
  · rfl
  · rfl

end Generator
end Boilerplate
