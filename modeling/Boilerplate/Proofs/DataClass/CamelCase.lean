import Boilerplate.Proofs.DataClass.Faults
import Boilerplate.Proofs.Schema.Keys
import Mathlib

/-! Names in camel case. In the constant of a field an underscore stands before every capital that the
name had, so when the name itself has no underscore and does not begin with a capital, it is read back
from its constant. Fields with such names never meet in one constant. -/
namespace Boilerplate

namespace Identifier
variable {c : Char} {name one other : String}

/-- Only capitals start words, and the first word begins small. -/
structure CamelCase (name : String) : Prop where
  joined : '_' ∉ name.toList
  small : ∀ c, name.toList.head? = some c → c.isUpper = false

instance : DecidablePred CamelCase := fun name =>
  decidable_of_iff ('_' ∉ name.toList ∧ name.toList.head?.all (!·.isUpper) = true) <| by
    constructor
    · rintro ⟨joined, small⟩
      refine ⟨joined, fun c first => ?_⟩
      simpa [first] using small
    · rintro ⟨joined, small⟩
      refine ⟨joined, ?_⟩
      cases first : name.toList.head? with
      | none => rfl
      | some c => simpa using small c first

/-- A character after an underscore is kept, any other is made small. -/
def camelChars : List Char → List Char
  | [] => []
  | '_' :: c :: rest => c :: camelChars rest
  | c :: rest => c.toLower :: camelChars rest

/-- The name in camel case of which this is the constant. -/
def fieldName? (identifier : String) : Option String :=
  ("FIELD_".toList.isPrefixOf? identifier.toList).map fun rest => String.ofList (camelChars rest)

section Letters

theorem toUpper_ne_underscore (other : c ≠ '_') : c.toUpper ≠ '_' := by
  have letters : ∀ n < 26, (Char.ofNat (97 + n)).toUpper ≠ '_' := by decide
  rcases toUpper_cases c with same | ⟨n, letter, rfl⟩
  · rwa [same]
  · exact letters n letter

end Letters

section Recovery

theorem camelChars_cons (other : c ≠ '_') (rest : List Char) :
    camelChars (c :: rest) = c.toLower :: camelChars rest := by
  rw [camelChars]
  rintro _ _ rfl
  exact absurd rfl other

/-- A small letter is read back from its capital. -/
theorem camelChars_toUpper (other : c ≠ '_') (small : c.isUpper = false) (rest : List Char) :
    camelChars (c.toUpper :: rest) = c :: camelChars rest := by
  rw [camelChars_cons (toUpper_ne_underscore other), Char.toLower_toUpper_eq_toLower,
    Char.toLower_eq_of_not_isUpper (Bool.eq_false_iff.mp small)]

theorem camelChars_snakePart (other : c ≠ '_') (rest : List Char) :
    camelChars (snakePart c ++ rest) = c :: camelChars rest := by
  unfold snakePart
  split
  · rfl
  · next small => exact camelChars_toUpper other (Bool.eq_false_iff.mpr small) rest

theorem camelChars_flatMap {cs : List Char} (joined : '_' ∉ cs) :
    camelChars (cs.flatMap snakePart) = cs := by
  induction cs with
  | nil => rfl
  | cons c rest ih =>
    obtain ⟨other, later⟩ := not_or.mp (mt List.mem_cons.mpr joined)
    rw [List.flatMap_cons, camelChars_snakePart (Ne.symm other), ih later]

theorem camelChars_upperSnakeChars {cs : List Char} (joined : '_' ∉ cs)
    (small : ∀ c, cs.head? = some c → c.isUpper = false) : camelChars (upperSnakeChars cs) = cs := by
  cases cs with
  | nil => rfl
  | cons first rest =>
    obtain ⟨other, later⟩ := not_or.mp (mt List.mem_cons.mpr joined)
    rw [upperSnakeChars, camelChars_toUpper (Ne.symm other) (small first rfl), camelChars_flatMap later]

theorem fieldName?_ofField (camel : CamelCase name) : fieldName? (ofField name) = some name := by
  have chars : (ofField name).toList = "FIELD_".toList ++ upperSnakeChars name.toList := by
    rw [ofField, String.toList_append, upperSnake, String.toList_ofList (l := upperSnakeChars _)]
  rw [fieldName?, chars, List.isPrefixOf?_eq_some_iff_append_eq.mpr rfl, Option.map_some,
    camelChars_upperSnakeChars camel.joined camel.small, String.ofList_toList]

theorem eq_of_ofField_eq (camel : CamelCase one) (camelToo : CamelCase other)
    (same : ofField one = ofField other) : one = other := by
  have read := fieldName?_ofField camel
  rw [same, fieldName?_ofField camelToo] at read
  exact (Option.some.inj read).symm

end Recovery
end Identifier

namespace DataClass
open Identifier (CamelCase)

theorem validate_ne_identifierCollision {c : DataClass} (camel : ∀ field ∈ c.fields, CamelCase field.name)
    (identifier first second : String) :
    c.validate ≠ .error (.identifierCollision identifier first second) := by
  intro failed
  by_cases legal : Identifier.Legal c.name
  · rw [validate_of_legal legal] at failed
    obtain ⟨before, field, after, split, _, broken⟩ := (checkFields_eq_error_iff .nil).mp failed
    cases broken with
    | @collision early _ _ only differ =>
      have found := List.mem_singleton_self early
      rw [← only] at found
      obtain ⟨present, shared⟩ := List.mem_filter.mp found
      have declared : early ∈ c.fields := by
        rw [split]
        exact List.mem_append_left _ present
      have last : field ∈ c.fields := by simp [split]
      exact differ (Identifier.eq_of_ofField_eq (camel early declared) (camel field last)
        (beq_iff_eq.mp shared))
  · rw [validate_of_illegal legal] at failed
    split at failed <;> cases failed

/-- A class of two names that differ in a capital only. -/
def user : DataClass := ⟨"User", [⟨"userId", "long", true⟩, ⟨"userID", "String", false⟩], false⟩

end DataClass

namespace Identifier

/-- Names in camel case are recovered from their constants, so different ones have different constants
and are never refused for a collision; and the constant of a field is none of the other generated
fields. -/
theorem camelCase_recoverable :
    (∀ name, CamelCase name → fieldName? (ofField name) = some name) ∧
    (∀ one other, CamelCase one → CamelCase other → ofField one = ofField other → one = other) ∧
    (∀ c : DataClass, (∀ field ∈ c.fields, CamelCase field.name) → ∀ identifier first second,
      c.validate ≠ .error (.identifierCollision identifier first second)) ∧
    ∀ name, ofField name ∉ [table, fullProjection, createTable, creator] := by
  refine ⟨fun _ => fieldName?_ofField, fun _ _ => eq_of_ofField_eq,
    fun _ => DataClass.validate_ne_identifierCollision, fun name member => ?_⟩
  have others : ∀ word ∈ [table, fullProjection, createTable, creator],
      "FIELD_".toList.isPrefixOf word.toList = false := by decide
  exact ne_ofField (others _ member) name rfl

/-- Neither condition can be spared. -/
example : ofField "Id" = ofField "id" ∧ ofField "user_id" = ofField "userId" := by decide

theorem camelCase_recoverable_user :
    CamelCase "userId" ∧ CamelCase "userID" ∧
    fieldName? "FIELD_USER_I_D" = some "userID" ∧
    (ofField "userId" = ofField "userID" → "userId" = "userID") ∧
    (∀ identifier first second,
      DataClass.user.validate ≠ .error (.identifierCollision identifier first second)) ∧
    ofField "userID" ∉ [table, fullProjection, createTable, creator] := by
  have one : CamelCase "userId" := by decide
  have other : CamelCase "userID" := by decide
  obtain ⟨recovered, injective, apart, fresh⟩ := camelCase_recoverable
  refine ⟨one, other, recovered "userID" other, injective _ _ one other, apart .user ?_, fresh "userID"⟩
  decide

end Identifier
end Boilerplate
