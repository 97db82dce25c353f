import Boilerplate.DataClass.Validation
import Boilerplate.Proofs.Identifier

/-! What validation promises about the fields of a class: they keep its rules together, so names and
generated identifiers differ from one another and every declared type reads. -/
namespace Boilerplate

theorem bind_eq_ok_iff {m : Except ε α} {next : α → Except ε β} {result : β} :
    (m >>= next) = .ok result ↔ ∃ value, m = .ok value ∧ next value = .ok result := by
  cases m with
  | error cause => simp [bind, Except.bind]
  | ok value => simp [bind, Except.bind]

theorem mapM_ok {f : α → Except ε β} {as : List α} (each : ∀ a ∈ as, ∃ b, f a = .ok b) :
    ∃ bs, as.mapM f = .ok bs := by
  induction as with
  | nil => exact ⟨[], rfl⟩
  | cons a rest ih =>
    obtain ⟨b, first⟩ := each a List.mem_cons_self
    obtain ⟨bs, others⟩ := ih fun a member => each a (List.mem_cons_of_mem _ member)
    exact ⟨b :: bs, by simp [List.mapM_cons, first, others, bind, Except.bind, pure, Except.pure]⟩

theorem exists_of_mem_mapM {f : α → Except ε β} {as : List α} {bs : List β} (made : as.mapM f = .ok bs)
    (member : b ∈ bs) : ∃ a ∈ as, f a = .ok b := by
  induction as generalizing bs with
  | nil =>
    cases made
    cases member
  | cons a rest ih =>
    rw [List.mapM_cons] at made
    obtain ⟨first, here, others⟩ := bind_eq_ok_iff.mp made
    obtain ⟨more, later, same⟩ := bind_eq_ok_iff.mp others
    cases same
    rcases List.mem_cons.mp member with rfl | among
    · exact ⟨a, List.mem_cons_self, here⟩
    · obtain ⟨source, present, found⟩ := ih later among
      exact ⟨source, List.mem_cons_of_mem _ present, found⟩

/-- Of elements with different keys, each is the only one under its key. -/
theorem filter_eq_singleton [BEq β] [LawfulBEq β] {key : α → β} {as : List α}
    (distinct : (as.map key).Nodup) (member : a ∈ as) :
    (as.filter fun other => key other == key a) = [a] := by
  obtain ⟨before, after, rfl⟩ := List.append_of_mem member
  have apart := List.pairwise_append.mp (List.pairwise_map.mp distinct)
  have early : (before.filter fun other => key other == key a) = [] :=
    List.filter_eq_nil_iff.mpr fun other among same =>
      apart.2.2 other among a List.mem_cons_self (beq_iff_eq.mp same)
  have late : (after.filter fun other => key other == key a) = [] :=
    List.filter_eq_nil_iff.mpr fun other among same =>
      (List.pairwise_cons.mp apart.2.1).1 other among (beq_iff_eq.mp same).symm
  rw [List.filter_append, early, List.filter_cons_of_pos (by simp), late]
  rfl

theorem mapError_eq_ok_iff {m : Except ε α} {change : ε → δ} {value : α} :
    m.mapError change = .ok value ↔ m = .ok value := by
  constructor
  · intro success
    cases m with
    | error cause => cases success
    | ok found => exact congrArg Except.ok (Except.ok.inj success)
  · rintro rfl
    rfl

namespace Field

/-- What a field must be to be accepted after the fields declared before it. -/
structure Accepted (earlier : List Field) (field : Field) : Prop where
  legal : Identifier.isLegal field.name = true
  new_name : ∀ other ∈ earlier, other.name ≠ field.name
  new_identifier : ∀ other ∈ earlier, other.identifier ≠ field.identifier
  readable : ∃ type, field.type = .ok type

theorem check_eq_ok_iff {earlier : List Field} {field : Field} :
    field.check earlier = .ok () ↔ field.Accepted earlier := by
  constructor
  · intro checked
    unfold check at checked
    split at checked
    · cases checked
    · rename_i legal
      split at checked
      · cases checked
      · rename_i fresh
        split at checked
        · cases checked
        · rename_i absent
          cases read : field.type with
          | error cause => simp [read, Except.map] at checked
          | ok type =>
            refine ⟨by simpa using legal, ?_, ?_, type, read⟩
            · simpa using fresh
            · simpa using absent
  · rintro ⟨legal, name, identifier, type, read⟩
    have fresh : (earlier.any fun other => other.name == field.name) = false := by simpa using name
    have absent : (earlier.find? fun other => other.identifier == field.identifier) = none := by
      simpa using identifier
    simp [check, legal, fresh, absent, read, Except.map]

/-- The rules for the fields of a class. -/
structure KeepRules (fields : List Field) : Prop where
  legal : ∀ field ∈ fields, Identifier.Legal field.name
  names : (fields.map name).Nodup
  identifiers : (fields.map identifier).Nodup
  readable : ∀ field ∈ fields, ∃ type, JavaType.parse field.declaredType = .ok type

theorem KeepRules.nil : KeepRules [] := by
  constructor <;> simp

theorem KeepRules.of_append {earlier later : List Field} (kept : KeepRules (earlier ++ later)) :
    KeepRules earlier := by
  obtain ⟨legal, names, identifiers, readable⟩ := kept
  rw [List.map_append] at names identifiers
  exact ⟨(List.forall_mem_append.mp legal).1, (List.nodup_append.mp names).1,
    (List.nodup_append.mp identifiers).1, (List.forall_mem_append.mp readable).1⟩

theorem exists_type_iff {field : Field} : (∃ type, field.type = .ok type) ↔
    ∃ type, JavaType.parse field.declaredType = .ok type := by
  simp [Field.type, mapError_eq_ok_iff]

/-- One more field keeps the rules when it is accepted. -/
theorem keepRules_append_singleton {earlier : List Field} {field : Field} :
    KeepRules (earlier ++ [field]) ↔ KeepRules earlier ∧ field.Accepted earlier := by
  constructor
  · intro kept
    refine ⟨kept.of_append, ?_, ?_, ?_, ?_⟩
    · exact Identifier.isLegal_iff.mpr (kept.legal field (by simp))
    · have names := kept.names
      rw [List.map_append] at names
      exact fun other old => (List.nodup_append.mp names).2.2 _ (List.mem_map_of_mem old) _ (by simp)
    · have identifiers := kept.identifiers
      rw [List.map_append] at identifiers
      exact fun other old =>
        (List.nodup_append.mp identifiers).2.2 _ (List.mem_map_of_mem old) _ (by simp)
    · exact exists_type_iff.mpr (kept.readable field (by simp))
  · rintro ⟨kept, legal, name, identifier, readable⟩
    constructor
    · exact List.forall_mem_append.mpr ⟨kept.legal, by simpa using Identifier.isLegal_iff.mp legal⟩
    · rw [List.map_append]
      exact List.nodup_append.mpr ⟨kept.names, by simp, by simpa using name⟩
    · rw [List.map_append]
      exact List.nodup_append.mpr ⟨kept.identifiers, by simp, by simpa using identifier⟩
    · exact List.forall_mem_append.mpr
        ⟨kept.readable, by simpa using exists_type_iff.mp readable⟩

end Field

namespace DataClass

theorem checkFields_cons_eq_ok_iff {earlier : List Field} :
    checkFields earlier (field :: rest) = .ok () ↔
      field.Accepted earlier ∧ checkFields (earlier ++ [field]) rest = .ok () := by
  rw [checkFields, bind_eq_ok_iff, ← Field.check_eq_ok_iff]
  constructor
  · rintro ⟨_, accepted, others⟩
    exact ⟨accepted, others⟩
  · rintro ⟨accepted, others⟩
    exact ⟨(), accepted, others⟩

/-- Fields are accepted one after another when they keep the rules together. -/
theorem checkFields_eq_ok_iff {earlier fields : List Field} (kept : Field.KeepRules earlier) :
    checkFields earlier fields = .ok () ↔ Field.KeepRules (earlier ++ fields) := by
  induction fields generalizing earlier with
  | nil => simp [checkFields, kept]
  | cons field rest ih =>
    rw [checkFields_cons_eq_ok_iff, List.append_cons earlier field rest]
    constructor
    · rintro ⟨accepted, others⟩
      exact (ih (Field.keepRules_append_singleton.mpr ⟨kept, accepted⟩)).mp others
    · intro all
      have known := all.of_append
      exact ⟨(Field.keepRules_append_singleton.mp known).2, (ih known).mpr all⟩

theorem validate_of_legal {c : DataClass} (legal : Identifier.Legal c.name) :
    c.validate = checkFields [] c.fields := by
  have filled : (Text.trim c.name).isEmpty = false := by simpa using legal.trim_ne_empty
  rw [validate, filled, Identifier.isLegal_iff.mpr legal]
  rfl

theorem validate_of_illegal {c : DataClass} (illegal : ¬ Identifier.Legal c.name) :
    c.validate = .error (if Text.trim c.name = "" then .emptyClassName
      else .illegalIdentifier c.name) := by
  have refused : Identifier.isLegal c.name = false :=
    Bool.eq_false_iff.mpr fun legal => illegal (Identifier.isLegal_iff.mp legal)
  rw [validate, refused]
  by_cases blank : Text.trim c.name = "" <;> simp [blank]

theorem isLegal_name {c : DataClass} (valid : c.validate = .ok ()) :
    Identifier.isLegal c.name = true := by
  rw [Identifier.isLegal_iff]
  by_contra illegal
  rw [validate_of_illegal illegal] at valid
  cases valid

theorem checkFields_of_validate {c : DataClass} (valid : c.validate = .ok ()) :
    checkFields [] c.fields = .ok () := by
  rwa [validate_of_legal (Identifier.isLegal_iff.mp (isLegal_name valid))] at valid

theorem keepRules_of_validate {c : DataClass} (valid : c.validate = .ok ()) :
    Field.KeepRules c.fields :=
  (checkFields_eq_ok_iff .nil).mp (checkFields_of_validate valid)

/-- Every field is accepted after those before it. -/
theorem accepted_of_validate {c : DataClass} (valid : c.validate = .ok ()) :
    ∀ field ∈ c.fields, ∃ before, field.Accepted before := by
  intro field member
  obtain ⟨before, after, split⟩ := List.append_of_mem member
  have all := keepRules_of_validate valid
  rw [split, List.append_cons] at all
  exact ⟨before, (Field.keepRules_append_singleton.mp all.of_append).2⟩

theorem isLegal_field {c : DataClass} (valid : c.validate = .ok ()) :
    ∀ field ∈ c.fields, Identifier.isLegal field.name = true := by
  intro field declared
  obtain ⟨_, accepted⟩ := accepted_of_validate valid field declared
  exact accepted.legal

theorem identifiers_nodup {c : DataClass} (valid : c.validate = .ok ()) : c.identifiers.Nodup :=
  (keepRules_of_validate valid).identifiers

theorem typedFields_ok {c : DataClass} (valid : c.validate = .ok ()) :
    ∃ fields, c.typedFields = .ok fields := by
  refine mapM_ok fun field member => ?_
  obtain ⟨before, accepted⟩ := accepted_of_validate valid field member
  obtain ⟨type, read⟩ := accepted.readable
  exact ⟨⟨field, type⟩, by simp [Field.typed, read, Except.map]⟩

/-- The fields with their types are those of the class, so their names are legal. -/
theorem isLegal_of_typedFields {c : DataClass} {fields : List TypedField}
    (valid : c.validate = .ok ()) (typed : c.typedFields = .ok fields) :
    ∀ field ∈ fields, Identifier.isLegal field.field.name = true := by
  intro field member
  obtain ⟨source, declared, made⟩ := exists_of_mem_mapM typed member
  have same : field.field = source := by
    unfold Field.typed at made
    cases read : source.type with
    | error cause =>
      rw [read] at made
      cases made
    | ok type =>
      rw [read] at made
      cases made
      rfl
  rw [same]
  exact isLegal_field valid source declared

/-- A class of two columns, which is accepted. -/
def point : DataClass :=
  ⟨"Point", [⟨"xPos", "int", true⟩, ⟨"label", "java.lang.String", false⟩], false⟩

theorem point_valid : point.validate = .ok () := by rfl

end DataClass
end Boilerplate
