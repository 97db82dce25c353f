import Boilerplate.JavaType.Basic
import Boilerplate.Proofs.Text.Lines

/-! Declarations of local variables in Java, as they are found line by line: a type, a name, and a
value or none. -/
namespace Boilerplate.Java
open Text
open Identifier (IsWord EndsWord isPart isLegal reservedWords)

/-- The characters of a type that is written without blanks. -/
def isTypePart (c : Char) : Bool := isPart c || ['.', '<', '>', '[', ']', ',', '?'].contains c

/-- A reserved word names a type only when it names a primitive. -/
def namesType (text : String) : Bool := !reservedWords.contains text || JavaType.isPrimitive text

/-- The local variable that is declared on a line, with or without a value. -/
def readLocal (line : String) : Option String := do
  let chars := skipBlanks line.toList
  let chars := ("final ".toList.isPrefixOf? chars).getD chars
  let type := String.ofList (chars.takeWhile isTypePart)
  let (name, rest) := takeName (← after? " " (String.ofList (chars.dropWhile isTypePart)))
  if namesType type && isLegal name && (rest == ";" || (after? " = " rest).isSome) then some name
  else none

variable {line type name rest : String}

/-- A type, a name, and what follows them at the front of a line. -/
theorem readLocal_eq (start : skipBlanks line.toList = (type ++ (" " ++ (name ++ rest))).toList)
    (plain : "final ".toList.isPrefixOf? (type ++ (" " ++ (name ++ rest))).toList = none)
    (typed : ∀ c ∈ type.toList, isTypePart c = true) (word : IsWord name.toList)
    (ends : EndsWord rest.toList) :
    readLocal line = if namesType type && isLegal name &&
      (rest == ";" || (after? " = " rest).isSome) then some name else none := by
  have chars : (type ++ (" " ++ (name ++ rest))).toList =
      type.toList ++ (" " ++ (name ++ rest)).toList := String.toList_append
  have stop : (" " ++ (name ++ rest)).toList.takeWhile isTypePart = [] ∧
      (" " ++ (name ++ rest)).toList.dropWhile isTypePart = (" " ++ (name ++ rest)).toList := by
    rw [String.toList_append]
    exact ⟨rfl, rfl⟩
  rw [readLocal, start, plain, Option.getD_none, chars, List.takeWhile_append_of_pos typed,
    List.dropWhile_append_of_pos typed, stop.1, stop.2, List.append_nil, String.ofList_toList,
    String.ofList_toList, after?_append]
  simp only [Option.bind_eq_bind, Option.bind_some, takeName_append word rest ends]

/-- A line declares nothing when a bracket opens after its first word. -/
theorem readLocal_eq_none {word gap rest : List Char}
    (start : skipBlanks line.toList = word ++ (gap ++ '(' :: rest)) (gaps : gap = [] ∨ gap = [' '])
    (type : ∀ c ∈ word, isTypePart c = true)
    (plain : "final ".toList.isPrefixOf? (word ++ (gap ++ '(' :: rest)) = none) :
    readLocal line = none := by
  have stop : (gap ++ '(' :: rest).takeWhile isTypePart = [] ∧
      (gap ++ '(' :: rest).dropWhile isTypePart = gap ++ '(' :: rest := by
    rcases gaps with rfl | rfl <;> exact ⟨rfl, rfl⟩
  rw [readLocal, start]
  simp only [after?, String.toList_ofList, plain, Option.getD_none]
  rw [List.takeWhile_append_of_pos type, List.dropWhile_append_of_pos type, stop.1, stop.2]
  rcases gaps with rfl | rfl
  · rfl
  · have name : takeName (String.ofList ('(' :: rest)) = ("", String.ofList ('(' :: rest)) := by
      rw [takeName, String.toList_ofList]
      rfl
    have rest : " ".toList.isPrefixOf? ([' '] ++ '(' :: rest) = some ('(' :: rest) := rfl
    simp only [rest, Option.map_some, Option.bind_eq_bind, Option.bind_some, name]
    have unnamed : isLegal "" = false := rfl
    simp only [unnamed, Bool.and_false, Bool.false_and, Bool.false_eq_true, if_false]

end Boilerplate.Java
