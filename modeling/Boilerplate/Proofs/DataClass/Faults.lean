import Boilerplate.Proofs.DataClass.Validation

/-! Why a class is refused. A class is accepted exactly when its name is legal and its fields keep the
rules together; otherwise its name is at fault, or else the first field that does not go with those
before it, and of the rules that this field breaks the first one is reported. -/
namespace Boilerplate

theorem bind_eq_error_iff {m : Except ε α} {next : α → Except ε β} {cause : ε} :
    (m >>= next) = .error cause ↔
      m = .error cause ∨ ∃ value, m = .ok value ∧ next value = .error cause := by
  cases m <;> simp [bind, Except.bind]

namespace Field
variable {earlier : List Field} {field : Field} {fault : ClassError}

/-- What is wrong with a field after the fields declared before it. -/
inductive Fault (earlier : List Field) (field : Field) : ClassError → Prop where
  | illegal : ¬ Identifier.Legal field.name → Fault earlier field (.illegalIdentifier field.name)
  | duplicate : Identifier.Legal field.name → field.name ∈ earlier.map Field.name →
      Fault earlier field (.duplicateField field.name)
  /-- Just one field before has the identifier, under another name. -/
  | collision {first : Field} : Identifier.Legal field.name → field.name ∉ earlier.map Field.name →
      (earlier.filter fun other => other.identifier == field.identifier) = [first] →
      first.name ≠ field.name →
      Fault earlier field (.identifierCollision field.identifier first.name field.name)
  | type {cause : JavaType.Malformed} : Identifier.Legal field.name →
      field.name ∉ earlier.map Field.name → field.identifier ∉ earlier.map Field.identifier →
      JavaType.parse field.declaredType = .error cause →
      Fault earlier field (.malformedFieldType field.name cause)

theorem Fault.check (broken : Fault earlier field fault) : field.check earlier = .error fault := by
  have repeated : (earlier.any fun other => other.name == field.name) = true ↔
      field.name ∈ earlier.map Field.name := by simp
  have shared : (earlier.find? fun other => other.identifier == field.identifier) = none ↔
      field.identifier ∉ earlier.map Field.identifier := by simp
  cases broken with
  | illegal illegal =>
    have refused : Identifier.isLegal field.name = false :=
      Bool.eq_false_iff.mpr fun legal => illegal (Identifier.isLegal_iff.mp legal)
    rw [Field.check, refused]
    rfl
  | duplicate legal old =>
    rw [Field.check, Identifier.isLegal_iff.mpr legal, repeated.mpr old]
    rfl
  | @collision first legal new only _ =>
    have found : (earlier.find? fun other => other.identifier == field.identifier) = some first := by
      rw [← List.head?_filter, only]
      rfl
    rw [Field.check, Identifier.isLegal_iff.mpr legal, Bool.eq_false_iff.mpr (mt repeated.mp new),
      found]
    rfl
  | type legal new apart malformed =>
    rw [Field.check, Identifier.isLegal_iff.mpr legal, Bool.eq_false_iff.mpr (mt repeated.mp new),
      shared.mpr apart, Field.type, malformed]
    rfl

theorem accepted_or_fault (distinct : (earlier.map Field.identifier).Nodup) (field : Field) :
    field.Accepted earlier ∨ ∃ fault, Fault earlier field fault := by
  by_cases legal : Identifier.Legal field.name
  · by_cases old : field.name ∈ earlier.map Field.name
    · exact .inr ⟨_, .duplicate legal old⟩
    · by_cases shared : field.identifier ∈ earlier.map Field.identifier
      · obtain ⟨first, member, same⟩ := List.mem_map.mp shared
        have only : earlier.filter (·.identifier == field.identifier) = [first] := by
          rw [← same]
          exact filter_eq_singleton distinct member
        exact .inr ⟨_, .collision legal old only fun equal => old (equal ▸ List.mem_map_of_mem member)⟩
      · cases read : JavaType.parse field.declaredType with
        | error cause => exact .inr ⟨_, .type legal old shared read⟩
        | ok type =>
          refine .inl ⟨Identifier.isLegal_iff.mpr legal, ?_, ?_, exists_type_iff.mpr ⟨type, read⟩⟩
          · exact fun other among same => old (same ▸ List.mem_map_of_mem among)
          · exact fun other among same => shared (same ▸ List.mem_map_of_mem among)
  · exact .inr ⟨_, .illegal legal⟩

theorem check_eq_error_iff (distinct : (earlier.map Field.identifier).Nodup) :
    field.check earlier = .error fault ↔ Fault earlier field fault := by
  constructor
  · intro failed
    rcases accepted_or_fault distinct field with accepted | ⟨other, broken⟩
    · rw [check_eq_ok_iff.mpr accepted] at failed
      cases failed
    · obtain rfl : other = fault := Except.error.inj (broken.check.symm.trans failed)
      exact broken
  · exact Fault.check

end Field

namespace DataClass
variable {earlier fields : List Field} {fault : ClassError} {c : DataClass}

/-- The first field that does not go with those before it is the one that is reported. -/
theorem checkFields_eq_error_iff (kept : Field.KeepRules earlier) :
    checkFields earlier fields = .error fault ↔ ∃ before field after,
      fields = before ++ field :: after ∧ Field.KeepRules (earlier ++ before) ∧
        field.Fault (earlier ++ before) fault := by
  induction fields generalizing earlier with
  | nil => simp [checkFields]
  | cons field rest ih =>
    rw [checkFields, bind_eq_error_iff, Field.check_eq_error_iff kept.identifiers]
    constructor
    · rintro (broken | ⟨_, accepted, later⟩)
      · exact ⟨[], field, rest, rfl, by simpa using kept, by simpa using broken⟩
      · have known := Field.keepRules_append_singleton.mpr ⟨kept, Field.check_eq_ok_iff.mp accepted⟩
        obtain ⟨before, next, after, rfl, rules, broken⟩ := (ih known).mp later
        rw [← List.append_cons] at rules broken
        exact ⟨field :: before, next, after, rfl, rules, broken⟩
    · rintro ⟨before, next, after, split, rules, broken⟩
      cases before with
      | nil =>
        obtain ⟨rfl, rfl⟩ := List.cons.inj split
        exact .inl (by simpa using broken)
      | cons first before =>
        obtain ⟨rfl, rfl⟩ := List.cons.inj split
        rw [List.append_cons] at rules broken
        obtain ⟨_, accepted⟩ := Field.keepRules_append_singleton.mp rules.of_append
        refine .inr ⟨(), Field.check_eq_ok_iff.mpr accepted, ?_⟩
        exact (ih rules.of_append).mpr ⟨before, next, after, rfl, rules, broken⟩

/-- A class that can be generated for. -/
structure WellFormed (c : DataClass) : Prop where
  name : Identifier.Legal c.name
  fields : Field.KeepRules c.fields

/-- What is wrong with a class. -/
inductive Fault (c : DataClass) : ClassError → Prop where
  | emptyName : Text.trim c.name = "" → Fault c .emptyClassName
  | illegalName : Text.trim c.name ≠ "" → ¬ Identifier.Legal c.name →
      Fault c (.illegalIdentifier c.name)
  /-- The fields before keep the rules, but not together with this one. -/
  | field {before after : List Field} {field : Field} {fault : ClassError} :
      Identifier.Legal c.name → c.fields = before ++ field :: after → Field.KeepRules before →
      field.Fault before fault → Fault c fault

/-- Validation accepts the classes that can be generated for, and of any other it reports the first
fault. -/
theorem validate_first_fault (c : DataClass) :
    (c.validate = .ok () ↔ c.WellFormed) ∧
      ∀ fault, c.validate = .error fault ↔ c.Fault fault := by
  constructor
  · constructor
    · intro valid
      exact ⟨Identifier.isLegal_iff.mp (isLegal_name valid), keepRules_of_validate valid⟩
    · rintro ⟨name, fields⟩
      rw [validate_of_legal name]
      exact (checkFields_eq_ok_iff .nil).mpr fields
  · intro fault
    constructor
    · intro failed
      by_cases legal : Identifier.Legal c.name
      · rw [validate_of_legal legal] at failed
        obtain ⟨before, field, after, split, rules, broken⟩ := (checkFields_eq_error_iff .nil).mp failed
        exact .field legal split rules broken
      · rw [validate_of_illegal legal] at failed
        cases failed
        split
        · rename_i blank
          exact .emptyName blank
        · rename_i filled
          exact .illegalName filled legal
    · intro broken
      cases broken with
      | emptyName blank =>
        rw [validate_of_illegal fun legal => legal.trim_ne_empty blank, if_pos blank]
      | illegalName filled illegal => rw [validate_of_illegal illegal, if_neg filled]
      | field legal split rules broken =>
        rw [validate_of_legal legal]
        exact (checkFields_eq_error_iff .nil).mpr ⟨_, _, _, split, rules, broken⟩

/-- The type of the second field is never read. -/
example : validate ⟨"User", [⟨"userName", "String", false⟩, ⟨"user_name", "List<", false⟩], false⟩ =
    .error (.identifierCollision "FIELD_USER_NAME" "userName" "user_name") := by rfl

end DataClass
end Boilerplate
