import Mathlib.Data.List.Forall2
import Mathlib.Data.List.Nodup
import Boilerplate.Proofs.Identifier
import Boilerplate.Proofs.Merge.Idempotence

/-! Merging again after the fields have changed. What the second plan says about a constant follows
from the class as it was before both plans and from the constants of the first: the class between the
two plans need not be looked at. Only what neither of them has is inserted. -/
namespace Boilerplate

namespace Schema

/-- The values of constants are names. -/
theorem legal_of_mem_constants {c : DataClass} (valid : c.validate = .ok ())
    (member : constant ∈ constants c) : Identifier.Legal constant.value := by
  rcases List.mem_cons.mp member with rfl | column
  · exact Identifier.isLegal_iff.mp (DataClass.isLegal_name valid)
  · obtain ⟨field, declared, rfl⟩ := List.mem_map.mp column
    exact Identifier.isLegal_iff.mp (DataClass.isLegal_field valid field declared)

theorem isWord_of_mem_constants {c : DataClass} (valid : c.validate = .ok ())
    (member : constant ∈ constants c) : Identifier.IsWord constant.value.toList :=
  (legal_of_mem_constants valid member).isWord

end Schema

namespace Merge

/-- The class declares the constant with its value, or it is one of those merged earlier. -/
def Known (snapshot : Snapshot) (earlier : List Constant) (constant : Constant) : Prop :=
  (∃ declaration ∈ snapshot.declarations, constant.holds declaration = true) ∨
    ∃ merged ∈ earlier, merged.identifier = constant.identifier ∧ merged.value = constant.value

/-- Neither the class nor what was merged earlier declares the identifier. -/
def Free (snapshot : Snapshot) (earlier : List Constant) (identifier : String) : Prop :=
  (∀ declaration ∈ snapshot.declarations, declaration.identifier ≠ identifier) ∧
    ∀ merged ∈ earlier, merged.identifier ≠ identifier

instance (snapshot : Snapshot) (earlier : List Constant) (constant : Constant) :
    Decidable (Known snapshot earlier constant) := inferInstanceAs (Decidable (_ ∨ _))

instance (snapshot : Snapshot) (earlier : List Constant) (identifier : String) :
    Decidable (Free snapshot earlier identifier) := inferInstanceAs (Decidable (_ ∧ _))

/-- An entry on a constant says how it stands to the class and to what was merged earlier. -/
structure DecidedAfter (snapshot : Snapshot) (earlier : List Constant) (constant : Constant)
    (entry : ConstantDecision) : Prop where
  identifier : entry.identifier = constant.identifier
  unchanged : entry.decision = .unchanged ↔ Known snapshot earlier constant
  insert : entry.decision = .insert ↔ Free snapshot earlier constant.identifier
  conflicting : entry.decision = .conflicting ↔
    ¬ Known snapshot earlier constant ∧ ¬ Free snapshot earlier constant.identifier

/-- What an insertion declares, and whether beside a declaration of the same name. -/
def Insertion.entry (insertion : Insertion) : MemberKey × Option String × Bool :=
  (insertion.member, insertion.literal, insertion.conflict)

/-- The insertions of constants, which are the ones with a literal. -/
def EditPlan.constants (plan : EditPlan) : List Insertion :=
  plan.insertions.filter fun insertion => insertion.literal.isSome

/-- What is left to insert for constants: those that are not known, plainly where the identifier is
free. -/
def pending (snapshot : Snapshot) (earlier constants : List Constant) :
    List (MemberKey × Option String × Bool) :=
  (constants.filter fun constant => ¬ Known snapshot earlier constant).map fun constant =>
    (constant.key, some constant.literal, !decide (Free snapshot earlier constant.identifier))

/-- A plan for the second of two classes that inserts only what the first has not left there. -/
structure Incremental (snapshot : Snapshot) (first second : DataClass) (plan : EditPlan) :
    Prop where
  decided : List.Forall₂ (DecidedAfter snapshot (Schema.constants first)) (Schema.constants second)
    plan.decisions
  inserted : plan.constants.map Insertion.entry =
    pending snapshot (Schema.constants first) (Schema.constants second)
  counted : plan.constants.length =
    plan.decisions.countP fun entry => entry.decision != .unchanged
  /-- Each new field whose identifier is free gets one constant, wherever it stands. -/
  once : ∀ field ∈ second.fields, Free snapshot (Schema.constants first) field.identifier →
    (plan.constants.countP fun insertion => insertion.member == .field field.identifier) = 1
  /-- No other constant is inserted plainly. -/
  added : (plan.constants.filter fun insertion => !insertion.conflict).map Insertion.member =
    (second.fields.filter fun field =>
      Free snapshot (Schema.constants first) field.identifier).map fun field =>
        .field field.identifier
  /-- When fields with free identifiers are added and others dropped, that is all. -/
  onlyAdded : second.name = first.name →
    (∀ field ∈ second.fields, field.name ∈ first.fields.map Field.name ∨
      Free snapshot (Schema.constants first) field.identifier) →
    ∀ insertion ∈ plan.constants, insertion.conflict = false

section Decisions
variable {note : String} {existing : List Declaration} {previous : Option Anchor}
  {constant : Constant} {snapshot : Snapshot} {earlier : List Constant}

theorem Known.not_free (known : Known snapshot earlier constant) :
    ¬ Free snapshot earlier constant.identifier := by
  rintro ⟨undeclared, unmerged⟩
  rcases known with ⟨declaration, declared, holds⟩ | ⟨merged, among, named, _⟩
  · simp only [Constant.holds, Bool.and_eq_true, beq_iff_eq] at holds
    exact undeclared declaration declared holds.1
  · exact unmerged merged among named

theorem DecidedAfter.mk_of_iff
    (unchanged : (constantDecision existing constant).decision = .unchanged ↔
      Known snapshot earlier constant)
    (insert : (constantDecision existing constant).decision = .insert ↔
      Free snapshot earlier constant.identifier) :
    DecidedAfter snapshot earlier constant (constantDecision existing constant) := by
  refine ⟨rfl, unchanged, insert, ?_⟩
  rw [← unchanged, ← insert]
  cases (constantDecision existing constant).decision <;> simp

/-- The insertions for constants are those that the decisions call for, in order. -/
theorem constantInsertions_entries (note : String) (existing : List Declaration)
    (previous : Option Anchor) (index : Nat) (constants : List Constant) :
    (constantInsertions note existing previous index constants).map Insertion.entry =
      (constants.filter fun constant =>
        (constantDecision existing constant).decision != .unchanged).map fun constant =>
          (constant.key, some constant.literal,
            (constantDecision existing constant).decision == .conflicting) := by
  induction constants generalizing previous index with
  | nil => rfl
  | cons constant more ih =>
    rw [constantInsertions_cons, List.map_append, ih, List.filter_cons]
    unfold constantInsertion?
    cases verdict : Verdict.of existing constant <;>
      simp [verdict, constantDecision, Verdict.decision, Insertion.entry]

end Decisions

section Merged
variable {note : String} {artifacts : Schema.Artifacts} {snapshot : Snapshot} {constant : Constant}
  {member : Member}

/-- What a schema merge adds: constants, or members under keys of their own. -/
theorem schemaInsertions_cases (planned : insertion ∈ schemaInsertions note snapshot artifacts) :
    (∃ merged ∈ artifacts.constants, insertion.member = merged.key ∧
        insertion.literal = some merged.literal) ∨
      insertion.member ∈ Schema.memberKeys ∧ insertion.literal = none := by
  rcases List.mem_append.mp planned with declared | other
  · obtain ⟨merged, among, _, made⟩ := mem_constantInsertions declared
    obtain ⟨key, literal, _⟩ := constantInsertion?_spec made
    exact .inl ⟨merged, among, key, literal⟩
  · obtain ⟨generated, among, made⟩ := List.mem_filterMap.mp other
    obtain ⟨key, literal, _⟩ := memberInsertion?_spec made
    refine .inr ⟨?_, literal⟩
    rw [key, ← artifacts.members_keys]
    exact List.mem_map_of_mem among

theorem exists_held_schemaMerged (among : merged ∈ artifacts.constants)
    (named : merged.identifier = constant.identifier) (valued : merged.value = constant.value) :
    ∃ member ∈ (schemaMerged note artifacts snapshot).members, constant.heldBy member = true := by
  obtain ⟨member, present, held⟩ := (schemaMerged_settled note artifacts snapshot).constants merged among
  refine ⟨member, present, ?_⟩
  rw [← Constant.heldBy_value, ← named, ← valued]
  exact held

/-- The class between the plans has a constant when the class before had it or it was merged. -/
theorem held_schemaMerged_iff (note : String) (artifacts : Schema.Artifacts) (snapshot : Snapshot)
    (word : Identifier.IsWord constant.value.toList) :
    (∃ member ∈ (schemaMerged note artifacts snapshot).members, constant.heldBy member = true) ↔
      Known snapshot artifacts.constants constant := by
  rw [Known, exists_holds_iff]
  constructor
  · rintro ⟨member, present, held⟩
    rcases mem_schemaMerged_iff.mp present with old | new
    · exact .inl ⟨member, old, held⟩
    · right
      obtain ⟨insertion, planned, rfl⟩ := List.mem_map.mp new
      have ownKey := Constant.heldBy_key held
      obtain ⟨declaration, same, holds⟩ := Constant.heldBy_eq_true_iff.mp held
      simp only [Constant.holds, Insertion.toMember_literal same, Bool.and_eq_true] at holds
      rcases schemaInsertions_cases planned with ⟨merged, among, key, literal⟩ | ⟨_, none⟩
      · rw [literal, Option.any_some] at holds
        rw [Insertion.toMember_key, key] at ownKey
        exact ⟨merged, among, MemberKey.field.inj ownKey,
          Constant.value_eq_of_matchesLiteral word holds.2⟩
      · rw [none] at holds
        cases holds.2
  · rintro (⟨member, old, held⟩ | ⟨merged, among, named, valued⟩)
    · exact ⟨member, mem_schemaMerged_iff.mpr (.inl old), held⟩
    · exact exists_held_schemaMerged among named valued

theorem free_schemaMerged_iff (note : String) (artifacts : Schema.Artifacts) (snapshot : Snapshot)
    {identifier : String} (own : Identifier.OfConstant identifier) :
    (∀ declaration ∈ (schemaMerged note artifacts snapshot).declarations,
      declaration.identifier ≠ identifier) ↔ Free snapshot artifacts.constants identifier := by
  constructor
  · intro absent
    constructor
    · intro declaration declared
      apply absent
      exact Snapshot.mem_declarations_iff.mpr
        (mem_schemaMerged_iff.mpr (.inl (Snapshot.mem_declarations_iff.mp declared)))
    · intro merged among
      obtain ⟨member, present, held⟩ := exists_held_schemaMerged among rfl rfl
      obtain ⟨declaration, rfl, holds⟩ := Constant.heldBy_eq_true_iff.mp held
      have key := MemberKey.field.inj (Constant.heldBy_key held)
      rw [← key]
      exact absent declaration (Snapshot.mem_declarations_iff.mpr present)
  · rintro ⟨undeclared, unmerged⟩ declaration declared named
    rcases mem_schemaMerged_iff.mp (Snapshot.mem_declarations_iff.mp declared) with old | new
    · exact undeclared declaration (Snapshot.mem_declarations_iff.mpr old) named
    · obtain ⟨insertion, planned, same⟩ := List.mem_map.mp new
      have key : insertion.member = .field identifier := by
        rw [← Insertion.toMember_key, same, ← named]
        rfl
      rcases schemaInsertions_cases planned with ⟨merged, among, merges, _⟩ | ⟨other, _⟩
      · exact unmerged merged among (MemberKey.field.inj (merges.symm.trans key))
      · rw [key] at other
        exact Schema.constantKey_not_mem_memberKeys own other

end Merged

section Plans
variable {note : String} {set : ArtifactSet} {artifacts : Schema.Artifacts} {snapshot : Snapshot}

/-- Only constants have literals. -/
theorem planClass_constants (present : set.schema = some artifacts) :
    (planClass note set snapshot).constants =
      constantInsertions note snapshot.declarations none 0 artifacts.constants := by
  have declared : (constantInsertions note snapshot.declarations none 0 artifacts.constants).filter
      (fun insertion => insertion.literal.isSome) =
        constantInsertions note snapshot.declarations none 0 artifacts.constants := by
    refine List.filter_eq_self.mpr fun insertion member => ?_
    obtain ⟨_, _, _, made⟩ := mem_constantInsertions member
    rw [(constantInsertion?_spec made).2.1]
    rfl
  have members : (artifacts.members.filterMap (memberInsertion? note snapshot)).filter
      (fun insertion => insertion.literal.isSome) = [] := by
    refine List.filter_eq_nil_iff.mpr fun insertion member => ?_
    obtain ⟨_, _, made⟩ := List.mem_filterMap.mp member
    simp [(memberInsertion?_spec made).2.1]
  have parcelable : (parcelableInsertions set snapshot).filter
      (fun insertion => insertion.literal.isSome) = [] := by
    refine List.filter_eq_nil_iff.mpr fun insertion member => ?_
    obtain ⟨_, _, _, _, rfl⟩ := mem_parcelableInsertions member
    simp
  have base : baseInsertions note set snapshot = schemaInsertions note snapshot artifacts := by
    rw [baseInsertions, present]
  rw [EditPlan.constants, planClass_insertions, base, List.filter_append, schemaInsertions,
    List.filter_append, declared, members, parcelable, List.append_nil, List.append_nil]

/-- On the class between the plans a decision depends on the class before and on what was merged. -/
theorem decidedAfter_merged {constant : Constant} (word : Identifier.IsWord constant.value.toList)
    (own : Identifier.OfConstant constant.identifier) :
    DecidedAfter snapshot artifacts.constants constant
      (constantDecision (schemaMerged note artifacts snapshot).declarations constant) :=
  .mk_of_iff
    (constantDecision_eq_unchanged_iff.trans (held_schemaMerged_iff note artifacts snapshot word))
    (constantDecision_eq_insert_iff.trans (free_schemaMerged_iff note artifacts snapshot own))

end Plans

section Assembly
variable {note : String} {snapshot : Snapshot} {earlier : List Constant} {first second : DataClass}
  {plan : EditPlan}

theorem table_not_free (snapshot : Snapshot) (c : DataClass) :
    ¬ Free snapshot (Schema.constants c) Identifier.table :=
  fun free => free.2 (Schema.tableConstant c) List.mem_cons_self rfl

/-- Where the table's identifier is taken, the constants with a free one are those of fields. -/
theorem filter_free_constants (taken : ¬ Free snapshot earlier Identifier.table) (c : DataClass) :
    ((Schema.constants c).filter fun constant => Free snapshot earlier constant.identifier).map
        Constant.key =
      (c.fields.filter fun field => Free snapshot earlier field.identifier).map fun field =>
        .field field.identifier := by
  have table : ¬ Free snapshot earlier (Schema.tableConstant c).identifier := taken
  rw [Schema.constants, List.filter_cons_of_neg (by simpa using table), List.filter_map, List.map_map]
  rfl

/-- A column that an earlier class had too is known. -/
theorem known_fieldConstant {field : Field} (kept : field.name ∈ first.fields.map Field.name) :
    Known snapshot (Schema.constants first) (Schema.fieldConstant field) := by
  obtain ⟨old, declared, same⟩ := List.mem_map.mp kept
  refine .inr ⟨Schema.fieldConstant old, ?_, congrArg Identifier.ofField same, same⟩
  exact List.mem_cons_of_mem _ (List.mem_map_of_mem declared)

/-- Where the decisions are known, so is what is inserted. -/
theorem entries_of_decided (existing : List Declaration) {constants : List Constant}
    (each : ∀ constant ∈ constants,
      DecidedAfter snapshot earlier constant (constantDecision existing constant)) :
    (constantInsertions note existing none 0 constants).map Insertion.entry =
      pending snapshot earlier constants := by
  have changed : (constants.filter fun constant =>
      (constantDecision existing constant).decision != .unchanged) =
        constants.filter fun constant => ¬ Known snapshot earlier constant := by
    refine List.filter_congr fun constant member => Bool.eq_iff_iff.mpr ?_
    simp [(each constant member).unchanged]
  rw [constantInsertions_entries, changed]
  refine List.map_congr_left fun constant member => ?_
  obtain ⟨among, unknown⟩ := List.mem_filter.mp member
  have conflict : ((constantDecision existing constant).decision == .conflicting) =
      !decide (Free snapshot earlier constant.identifier) := by
    refine Bool.eq_iff_iff.mpr ?_
    simpa [(each constant among).conflicting] using fun _ => by simpa using unknown
  rw [conflict]

theorem members_of_pending {constants : List Constant}
    (inserted : plan.constants.map Insertion.entry = pending snapshot earlier constants) :
    plan.constants.map Insertion.member =
      (constants.filter fun constant => ¬ Known snapshot earlier constant).map Constant.key := by
  have members := congrArg (List.map Prod.fst) inserted
  rw [pending, List.map_map, List.map_map] at members
  exact members

/-- The constants of an accepted class have different keys, so each is inserted once at most. -/
theorem countP_of_pending (valid : second.validate = .ok ())
    (inserted : plan.constants.map Insertion.entry =
      pending snapshot earlier (Schema.constants second))
    (declared : field ∈ second.fields) (free : Free snapshot earlier field.identifier) :
    (plan.constants.countP fun insertion => insertion.member == .field field.identifier) = 1 := by
  have unknown : ¬ Known snapshot earlier (Schema.fieldConstant field) :=
    fun known => known.not_free free
  have among : Schema.fieldConstant field ∈ Schema.constants second :=
    List.mem_cons_of_mem _ (List.mem_map_of_mem declared)
  have distinct : (plan.constants.map Insertion.member).Nodup := by
    rw [members_of_pending inserted]
    have keys := (List.nodup_append.mp (Schema.keys_nodup valid)).1
    exact (List.filter_sublist.map Constant.key).nodup keys
  have listed : MemberKey.field field.identifier ∈ plan.constants.map Insertion.member := by
    rw [members_of_pending inserted]
    exact List.mem_map_of_mem (f := Constant.key) (List.mem_filter.mpr ⟨among, by simpa using unknown⟩)
  have once := List.count_eq_one_of_mem distinct listed
  rw [List.count, List.countP_map] at once
  exact once

/-- What is inserted plainly is pending for a free identifier. -/
theorem plain_of_pending {constants : List Constant}
    (inserted : plan.constants.map Insertion.entry = pending snapshot earlier constants) :
    (plan.constants.filter fun insertion => !insertion.conflict).map Insertion.member =
      (constants.filter fun constant => Free snapshot earlier constant.identifier).map
        Constant.key := by
  have plain : (plan.constants.filter fun insertion => !insertion.conflict).map Insertion.member =
      ((plan.constants.map Insertion.entry).filter fun entry => !entry.2.2).map Prod.fst := by
    simp [List.filter_map, Function.comp_def, Insertion.entry]
  rw [plain, inserted, pending, List.filter_map, List.map_map, List.filter_filter]
  congr 1
  refine List.filter_congr fun constant _ => Bool.eq_iff_iff.mpr ?_
  simpa using fun free known => Known.not_free known free

/-- There is no conflict when every constant is known or has a free identifier. -/
theorem no_conflict_of_pending {constants : List Constant}
    (inserted : plan.constants.map Insertion.entry = pending snapshot earlier constants)
    (settled : ∀ constant ∈ constants,
      Known snapshot earlier constant ∨ Free snapshot earlier constant.identifier) :
    ∀ insertion ∈ plan.constants, insertion.conflict = false := by
  intro insertion member
  have entry := List.mem_map_of_mem (f := Insertion.entry) member
  rw [inserted] at entry
  obtain ⟨constant, among, same⟩ := List.mem_map.mp entry
  obtain ⟨listed, unknown⟩ := List.mem_filter.mp among
  have free := (settled constant listed).resolve_left (by simpa using unknown)
  have conflict := congrArg (fun entry => entry.2.2) same
  simpa [free, Insertion.entry] using conflict.symm

/-- A plan is incremental when it decides so and inserts what it decides. -/
theorem incremental_of_decided (valid : second.validate = .ok ()) (existing : List Declaration)
    (decisions : plan.decisions = (Schema.constants second).map (constantDecision existing))
    (constants : plan.constants = constantInsertions note existing none 0 (Schema.constants second))
    (each : ∀ constant ∈ Schema.constants second,
      DecidedAfter snapshot (Schema.constants first) constant (constantDecision existing constant)) :
    Incremental snapshot first second plan := by
  have inserted : plan.constants.map Insertion.entry =
      pending snapshot (Schema.constants first) (Schema.constants second) := by
    rw [constants, entries_of_decided existing each]
  constructor
  · rw [decisions]
    exact List.forall₂_map_right_iff.mpr (List.forall₂_same.mpr each)
  · exact inserted
  · rw [← List.length_map Insertion.entry, constants, constantInsertions_entries, List.length_map,
      ← List.countP_eq_length_filter, decisions, List.countP_map]
    rfl
  · intro field declared free
    exact countP_of_pending valid inserted declared free
  · rw [plain_of_pending inserted, filter_free_constants (table_not_free snapshot first)]
  · intro named kept
    apply no_conflict_of_pending inserted
    intro constant listed
    rcases List.mem_cons.mp listed with rfl | column
    · exact .inl (.inr ⟨Schema.tableConstant first, List.mem_cons_self, rfl, named.symm⟩)
    · obtain ⟨field, declared, rfl⟩ := List.mem_map.mp column
      exact (kept field declared).imp_left known_fieldConstant

end Assembly
end Merge

namespace Toolchain
open Merge

/-- Generating for changed fields after a schema merge touches only what has changed. -/
theorem regeneration_incremental (t : Toolchain) (c d : DataClass) (snapshot : Snapshot)
    (valid : c.validate = .ok ()) (validNext : d.validate = .ok ()) :
    ∃ first, t.plan c snapshot .schema = .ok first ∧
      (∃ second, t.plan d first.merged .schema = .ok second) ∧
      ∀ (kind : ArtifactKind) (second : PlanOutcome), kind.wantsSchema = true →
        t.plan d first.merged kind = .ok second → Incremental snapshot c d second.plan := by
  obtain ⟨artifacts, made, generated⟩ := Generator.generate_schema (g := t.generator) valid
  obtain ⟨_, _, next⟩ := Generator.generate_schema (g := t.generator) validNext
  refine ⟨_, plan_eq_ok_iff.mpr ⟨_, generated, rfl⟩, ⟨_, plan_eq_ok_iff.mpr ⟨_, next, rfl⟩⟩, ?_⟩
  intro kind second wanted planned
  obtain ⟨set, regenerated, rfl⟩ := plan_eq_ok_iff.mp planned
  obtain ⟨later, present, remade⟩ := Generator.generate_wanted wanted regenerated
  have constants := Generator.schemaArtifacts_constants remade
  apply incremental_of_decided validNext (schemaMerged t.note artifacts snapshot).declarations
  · rw [planClass_decisions present, constants]
    rfl
  · rw [planClass_constants present, constants]
    rfl
  · intro constant member
    rw [← Generator.schemaArtifacts_constants made]
    exact decidedAfter_merged (Schema.isWord_of_mem_constants validNext member)
      (Schema.identifier_of_mem_constants member)

/-- The class of two columns after it has lost one and got another in front. -/
def changedPoint : DataClass :=
  ⟨"Point", [⟨"yPos", "int", true⟩, ⟨"label", "java.lang.String", false⟩], false⟩

/-- One column declared by hand, without quotes, and the table without a name. -/
def handmade : Snapshot :=
  ⟨[.field ⟨"TABLE", none, none⟩, .field ⟨"FIELD_LABEL", some " label ", none⟩], []⟩

theorem regeneration_incremental_point :
    DataClass.point.validate = .ok () ∧ changedPoint.validate = .ok () ∧
    ∃ first, standard.plan .point handmade .schema = .ok first ∧
      (∃ second, standard.plan changedPoint first.merged .schema = .ok second) ∧
      ∀ (kind : ArtifactKind) (second : PlanOutcome), kind.wantsSchema = true →
        standard.plan changedPoint first.merged kind = .ok second →
        Incremental handmade .point changedPoint second.plan := by
  have validNext : changedPoint.validate = .ok () := by rfl
  exact ⟨DataClass.point_valid, validNext,
    regeneration_incremental standard .point changedPoint handmade DataClass.point_valid validNext⟩

end Toolchain
end Boilerplate
