import Boilerplate.Schema.Column
import Boilerplate.Strategy.Basic
import Mathlib.Data.List.Basic

/-! What becomes of a value in a column: the type of the column, the form in which the value is stored,
and the expression that reads it. Each is chosen on its own by the text of the field's type. For every
type they belong together. -/
namespace Boilerplate

namespace JavaType
variable {name : String} {type : JavaType}

theorem text_bare (name : String) : JavaType.text ⟨name, [], 0⟩ = name := by
  rw [text, chars, argumentChars, brackets, List.append_nil, List.append_nil, String.ofList_toList]

/-- Arguments and array brackets show in the text, so a text without them is that of one type only. -/
theorem text_eq_iff (raw : '<' ∉ name.toList) (single : '[' ∉ name.toList) :
    type.text = name ↔ type = ⟨name, [], 0⟩ := by
  constructor
  · obtain ⟨base, arguments, depth⟩ := type
    rintro rfl
    rw [text, String.toList_ofList, chars] at raw single
    cases arguments with
    | cons first more => simp [argumentChars] at raw
    | nil =>
      cases depth with
      | succ depth => simp [brackets] at single
      | zero => rw [text_bare]
  · rintro rfl
    exact text_bare name

theorem isExactly_iff_eq : type.isExactly name = true ↔ type = ⟨name, [], 0⟩ := by
  obtain ⟨base, arguments, depth⟩ := type
  simp [isExactly, and_comm]

end JavaType

namespace Schema

/-- A column, how values are put into it, and how they are read from it. -/
structure Storage where
  column : SqlType
  reader : ColumnReader
  conversion : ValueConversion
deriving DecidableEq, Repr

namespace Storage
open ColumnReader (byte boxedByte short int long double float boolean boxedBoolean timestamp)

def ofType (type : JavaType) : Storage :=
  ⟨SqlType.ofType type, ColumnReader.ofType type, ValueConversion.ofType type⟩

def numericReaders : List ColumnReader := [byte, boxedByte, short, int, long, double, float]

def booleanReaders : List ColumnReader := [boolean, boxedBoolean]

/-- What is read is what the column holds, in the form in which it was stored. -/
structure Agrees (storage : Storage) : Prop where
  blob : storage.column = .blob ↔ storage.reader = .blob
  text : storage.column = .text ↔ storage.reader = .string
  integer : storage.column = .integer ↔
    storage.reader ∈ numericReaders ∨ storage.reader ∈ booleanReaders ∨ storage.reader = timestamp
  milliseconds : storage.conversion = .epochMillis ↔ storage.reader = timestamp
  zeroOrOne : storage.conversion = .booleanAsInt ↔ storage.reader ∈ booleanReaders
  verbatim : storage.conversion = .verbatim ↔
    storage.reader ≠ timestamp ∧ storage.reader ∉ booleanReaders

instance : DecidablePred Agrees := fun storage =>
  decidable_of_iff
    ((storage.column = .blob ↔ storage.reader = .blob) ∧
      (storage.column = .text ↔ storage.reader = .string) ∧
      (storage.column = .integer ↔ storage.reader ∈ numericReaders ∨
        storage.reader ∈ booleanReaders ∨ storage.reader = timestamp) ∧
      (storage.conversion = .epochMillis ↔ storage.reader = timestamp) ∧
      (storage.conversion = .booleanAsInt ↔ storage.reader ∈ booleanReaders) ∧
      (storage.conversion = .verbatim ↔
        storage.reader ≠ timestamp ∧ storage.reader ∉ booleanReaders))
    ⟨fun ⟨blob, text, integer, milliseconds, zeroOrOne, verbatim⟩ =>
      ⟨blob, text, integer, milliseconds, zeroOrOne, verbatim⟩,
     fun ⟨blob, text, integer, milliseconds, zeroOrOne, verbatim⟩ =>
      ⟨blob, text, integer, milliseconds, zeroOrOne, verbatim⟩⟩

/-- The texts of the types that are not read as strings. -/
def names : List String := ColumnReader.readers.map Prod.fst

theorem mem_names_of_integer : ∀ name ∈ SqlType.integerNames, name ∈ names := by decide

theorem ofType_congr {one other : JavaType} (same : one.text = other.text) : ofType one = ofType other := by
  unfold ofType SqlType.ofType ColumnReader.ofType ValueConversion.ofType
  rw [same]

/-- A type without a reader of its own is in none of the tables. -/
theorem ofType_unlisted {type : JavaType} (unlisted : type.text ∉ names) :
    ofType type = ⟨.text, .string, .verbatim⟩ := by
  have apart (name : String) (listed : name ∈ names) : type.text ≠ name := by
    rintro rfl
    exact unlisted listed
  have column : SqlType.ofType type = .text := by
    have integer : type.text ∉ SqlType.integerNames := mt (mem_names_of_integer type.text) unlisted
    have blob := apart "byte[]" (by decide)
    have date := apart JavaType.dateName (by decide)
    simp [SqlType.ofType, integer, blob, date]
  have reader : ColumnReader.ofType type = .string := by
    have absent : ColumnReader.readers.lookup type.text = none := by
      rw [List.lookup_eq_none_iff]
      intro entry member
      simpa using apart entry.1 (List.mem_map_of_mem member)
    rw [ColumnReader.ofType, absent, Option.getD_none]
  have conversion : ValueConversion.ofType type = .verbatim := by
    have date := apart JavaType.dateName (by decide)
    have truth := apart "boolean" (by decide)
    have boxed := apart "java.lang.Boolean" (by decide)
    simp [ValueConversion.ofType, date, truth, boxed]
  rw [ofType, column, reader, conversion]

theorem agrees_of_listed : ∀ name ∈ names, (ofType ⟨name, [], 0⟩).Agrees := by decide

theorem agrees (type : JavaType) : (ofType type).Agrees := by
  by_cases listed : type.text ∈ names
  · rw [ofType_congr (JavaType.text_bare type.text).symm]
    exact agrees_of_listed _ listed
  · rw [ofType_unlisted listed]
    decide

theorem reader_timestamp_iff (type : JavaType) :
    ColumnReader.ofType type = timestamp ↔ type = ⟨JavaType.dateName, [], 0⟩ := by
  have others : ∀ name ∈ names, ColumnReader.ofType ⟨name, [], 0⟩ = timestamp → name = JavaType.dateName := by
    decide
  rw [← JavaType.text_eq_iff (by decide) (by decide)]
  constructor
  · intro dated
    by_cases listed : type.text ∈ names
    · refine others _ listed ?_
      have same := ofType_congr (JavaType.text_bare type.text)
      rw [← dated]
      exact congrArg Storage.reader same
    · have plain := congrArg Storage.reader (ofType_unlisted listed)
      rw [ofType, dated] at plain
      cases plain
  · intro date
    rw [ColumnReader.ofType, date]
    rfl

/-- Whatever the shape of a type, the column is of the kind that the reader reads, and values are stored
in the form that it reads. Milliseconds are for dates alone, which is all that the strategy for dates
claims. -/
theorem column_reader_conversion_agree (type : JavaType) :
    (ofType type).Agrees ∧
      (ColumnReader.ofType type = timestamp ↔ type = ⟨JavaType.dateName, [], 0⟩) ∧
      ∀ registry : Registry, Strategy.date.claims registry type = true ↔
        type = ⟨JavaType.dateName, [], 0⟩ :=
  ⟨agrees type, reader_timestamp_iff type, fun _ => JavaType.isExactly_iff_eq⟩

end Storage
end Schema
end Boilerplate
