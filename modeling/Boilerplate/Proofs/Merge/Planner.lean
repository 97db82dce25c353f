import Boilerplate.Proofs.Merge.Insertions
import Boilerplate.Proofs.Merge.Verdict
import Boilerplate.Proofs.Schema.Keys

/-! What is planned for generated schema members. Each constant and each member that the class lacks
or has otherwise gets one insertion, which later plans recognise; the anchors of these insertions
are there in their turn and no two are the same. -/
namespace Boilerplate

namespace Constant

/-- The member declares the constant with its value. -/
def heldBy (constant : Constant) (member : Member) : Bool := member.declaration?.any constant.holds

theorem heldBy_eq_true_iff {constant : Constant} {member : Member} :
    constant.heldBy member = true ↔
      ∃ declaration, member = .field declaration ∧ constant.holds declaration = true := by
  cases member <;> simp [heldBy, Member.declaration?]

/-- Its comment does not matter. -/
theorem heldBy_value (constant : Constant) :
    heldBy ⟨constant.identifier, constant.value, none⟩ = constant.heldBy := rfl

theorem heldBy_key {constant : Constant} {member : Member} (held : constant.heldBy member = true) :
    member.key = constant.key := by
  obtain ⟨declaration, rfl, holds⟩ := heldBy_eq_true_iff.mp held
  simp only [Constant.holds, Bool.and_eq_true, beq_iff_eq] at holds
  exact congrArg MemberKey.field holds.1

end Constant

namespace Snapshot

theorem mem_declarations_iff {snapshot : Snapshot} {declaration : Declaration} :
    declaration ∈ snapshot.declarations ↔ .field declaration ∈ snapshot.members := by
  constructor
  · intro declared
    obtain ⟨member, present, same⟩ := List.mem_filterMap.mp declared
    cases member with
    | field found =>
      cases same
      exact present
    | method _ => cases same
  · intro present
    exact List.mem_filterMap.mpr ⟨_, present, rfl⟩

theorem countP_filterMap_declaration (members : List Member) (identifier : String) :
    ((members.filterMap Member.declaration?).countP fun declaration =>
        declaration.identifier == identifier) =
      members.countP fun member => member.key == .field identifier := by
  rw [List.countP_filterMap]
  congr
  funext member
  cases member with
  | field declaration =>
    refine Bool.eq_iff_iff.mpr ?_
    simp [Member.declaration?, Member.key]
  | method m => simp [Member.declaration?, Member.key]

end Snapshot

namespace Merge
open Schema (MemberText)

section Constants
variable {note : String} {existing : List Declaration} {previous : Option Anchor}
  {constant : Constant} {insertion : Insertion}

def constantInsertion? (note : String) (existing : List Declaration) (previous : Option Anchor)
    (constant : Constant) : Option Insertion :=
  match Verdict.of existing constant with
  | .missing =>
    some ⟨previous.getD .endOfClass, constant.key, constant.declaration, some constant.literal, false⟩
  | .held _ => none
  | .differing _ =>
    some ⟨.afterExisting constant.key 0, constant.key, (constant.annotate note).declaration,
      some constant.literal, true⟩

/-- What is inserted for a constant that the class does not declare. -/
def plainInsertion (anchor : Anchor) (constant : Constant) : Insertion :=
  ⟨anchor, constant.key, constant.declaration, some constant.literal, false⟩

theorem plainInsertion_held (anchor : Anchor) (constant : Constant) :
    constant.heldBy (plainInsertion anchor constant).toMember = true := constant.holds_literal _

theorem constantInsertion?_of_missing (missing : Verdict.of existing constant = .missing) :
    constantInsertion? note existing previous constant =
      some (plainInsertion (previous.getD .endOfClass) constant) := by
  rw [constantInsertion?, missing]
  rfl

/-- The place of the declaration processed for a constant when so many insertions come before. -/
def processedAnchor (existing : List Declaration) (index : Nat) (constant : Constant) : Anchor :=
  match Verdict.of existing constant with
  | .held occurrence => .afterExisting constant.key occurrence
  | _ => .afterPlanned index

theorem constantInsertions_cons : constantInsertions note existing previous index (constant :: more) =
    (constantInsertion? note existing previous constant).toList ++
      constantInsertions note existing (some (processedAnchor existing index constant))
        (index + (constantInsertion? note existing previous constant).toList.length) more := by
  rw [constantInsertions]
  unfold constantInsertion? processedAnchor
  cases Verdict.of existing constant <;> rfl

theorem constantInsertions_append (note : String) (existing : List Declaration)
    (previous : Option Anchor) (index : Nat) (earlier later : List Constant) :
    ∃ processed, constantInsertions note existing previous index (earlier ++ later) =
      constantInsertions note existing previous index earlier ++
        constantInsertions note existing processed
          (index + (constantInsertions note existing previous index earlier).length) later := by
  induction earlier generalizing previous index with
  | nil => exact ⟨previous, rfl⟩
  | cons constant earlier ih =>
    simp only [List.cons_append, constantInsertions_cons]
    obtain ⟨processed, rest⟩ := ih (some (processedAnchor existing index constant))
      (index + (constantInsertion? note existing previous constant).toList.length)
    refine ⟨processed, ?_⟩
    rw [rest, List.length_append, Nat.add_assoc, List.append_assoc]

theorem constantInsertion?_eq_none_iff :
    constantInsertion? note existing previous constant = none ↔
      ∃ declaration ∈ existing, constant.holds declaration = true := by
  rw [← Verdict.exists_held_iff]
  unfold constantInsertion?
  cases Verdict.of existing constant <;> simp

/-- All that may be inserted for one constant. -/
theorem constantInsertion?_cases
    (made : constantInsertion? note existing previous constant = some insertion) :
    Verdict.of existing constant = .missing ∧ insertion = ⟨previous.getD .endOfClass, constant.key,
        constant.declaration, some constant.literal, false⟩ ∨
      ∃ first, Verdict.of existing constant = .differing first ∧
        insertion = ⟨.afterExisting constant.key 0, constant.key,
          (constant.annotate note).declaration, some constant.literal, true⟩ := by
  unfold constantInsertion? at made
  cases verdict : Verdict.of existing constant with
  | missing =>
    simp only [verdict, Option.some.injEq] at made
    exact .inl ⟨rfl, made.symm⟩
  | held occurrence => simp [verdict] at made
  | differing first =>
    simp only [verdict, Option.some.injEq] at made
    exact .inr ⟨first, rfl, made.symm⟩

theorem constantInsertion?_spec
    (made : constantInsertion? note existing previous constant = some insertion) :
    insertion.member = constant.key ∧ insertion.literal = some constant.literal ∧
      constant.heldBy insertion.toMember = true := by
  rcases constantInsertion?_cases made with ⟨_, rfl⟩ | ⟨_, _, rfl⟩
  · exact ⟨rfl, rfl, constant.holds_literal _⟩
  · exact ⟨rfl, rfl, constant.holds_literal _⟩

theorem mem_constantInsertions
    (member : insertion ∈ constantInsertions note existing previous index constants) :
    ∃ constant ∈ constants, ∃ processed,
      constantInsertion? note existing processed constant = some insertion := by
  induction constants generalizing previous index with
  | nil => cases member
  | cons constant more ih =>
    rw [constantInsertions_cons] at member
    rcases List.mem_append.mp member with first | later
    · exact ⟨constant, List.mem_cons_self, previous, Option.mem_toList.mp first⟩
    · obtain ⟨other, among, processed, made⟩ := ih later
      exact ⟨other, List.mem_cons_of_mem _ among, processed, made⟩

theorem constantInsertions_keys (note : String) (existing : List Declaration)
    (previous : Option Anchor) (index : Nat) (constants : List Constant) :
    ((constantInsertions note existing previous index constants).map Insertion.member).Sublist
      (constants.map Constant.key) := by
  induction constants generalizing previous index with
  | nil => exact .slnil
  | cons constant more ih =>
    rw [constantInsertions_cons, List.map_append, List.map_cons]
    cases made : constantInsertion? note existing previous constant with
    | none => exact (ih _ _).cons _
    | some insertion =>
      have key := (constantInsertion?_spec made).1
      simp only [Option.toList_some, List.map_cons, List.map_nil, List.singleton_append, key]
      exact (ih _ _).cons_cons _

theorem exists_constantInsertion (member : constant ∈ constants)
    (lacking : ¬ ∃ declaration ∈ existing, constant.holds declaration = true) :
    ∃ processed, ∃ insertion ∈ constantInsertions note existing previous index constants,
      constantInsertion? note existing processed constant = some insertion := by
  obtain ⟨earlier, later, rfl⟩ := List.append_of_mem member
  obtain ⟨processed, split⟩ :=
    constantInsertions_append note existing previous index earlier (constant :: later)
  cases made : constantInsertion? note existing processed constant with
  | none => exact absurd (constantInsertion?_eq_none_iff.mp made) lacking
  | some insertion =>
    refine ⟨processed, insertion, ?_, made⟩
    rw [split, constantInsertions_cons, made]
    simp

theorem constantInsertions_eq_nil
    (held : ∀ constant ∈ constants, ∃ declaration ∈ existing, constant.holds declaration = true) :
    constantInsertions note existing previous index constants = [] := by
  refine List.eq_nil_iff_forall_not_mem.mpr fun insertion member => ?_
  obtain ⟨constant, among, processed, made⟩ := mem_constantInsertions member
  rw [constantInsertion?_eq_none_iff.mpr (held constant among)] at made
  cases made

theorem exists_holds_iff {snapshot : Snapshot} :
    (∃ declaration ∈ snapshot.declarations, constant.holds declaration = true) ↔
      ∃ member ∈ snapshot.members, constant.heldBy member = true := by
  constructor
  · rintro ⟨declaration, declared, holds⟩
    exact ⟨.field declaration, Snapshot.mem_declarations_iff.mp declared, holds⟩
  · rintro ⟨member, present, held⟩
    obtain ⟨declaration, rfl, holds⟩ := Constant.heldBy_eq_true_iff.mp held
    exact ⟨declaration, Snapshot.mem_declarations_iff.mpr present, holds⟩

theorem exists_held_split {snapshot : Snapshot} {n : Nat}
    (held : Verdict.of snapshot.declarations constant = .held n) :
    ∃ before member after, snapshot.members = before ++ member :: after ∧
      constant.heldBy member = true ∧ (∀ other ∈ before, constant.heldBy other = false) ∧
      (before.countP fun other => other.key == constant.key) = n := by
  obtain ⟨front, declaration, back, split, holds, none, count⟩ := Verdict.of_eq_held_iff.mp held
  obtain ⟨start, rest, members, rfl, tail⟩ := List.filterMap_eq_append_iff.mp split
  obtain ⟨gap, member, after, rfl, skipped, same, _⟩ := List.filterMap_eq_cons_iff.mp tail
  refine ⟨start ++ gap, member, after, by simp [members], ?_, fun other early => ?_, ?_⟩
  · simpa [Constant.heldBy, same] using holds
  · rcases List.mem_append.mp early with early | between
    · cases declared : other.declaration? with
      | none => simp [Constant.heldBy, declared]
      | some d =>
        have missed := none d (List.mem_filterMap.mpr ⟨other, early, declared⟩)
        simpa [Constant.heldBy, declared] using missed
    · simp [Constant.heldBy, skipped other between]
  · have undeclared : gap.filterMap Member.declaration? = [] :=
      List.filterMap_eq_nil_iff.mpr skipped
    rw [Constant.key, ← Snapshot.countP_filterMap_declaration, List.filterMap_append, undeclared,
      List.append_nil]
    exact count

theorem not_held_of_insertion {snapshot : Snapshot}
    (made : constantInsertion? note snapshot.declarations previous constant = some insertion) :
    ¬ ∃ member ∈ snapshot.members, constant.heldBy member = true := by
  intro held
  rw [constantInsertion?_eq_none_iff.mpr (exists_holds_iff.mpr held)] at made
  cases made

theorem constantDecision_eq_unchanged_iff_holds :
    (constantDecision existing constant).decision = .unchanged ↔
      ∃ declaration ∈ existing, constant.holds declaration = true := by
  rw [← Verdict.exists_held_iff, constantDecision]
  cases Verdict.of existing constant <;> simp [Verdict.decision]

theorem constantDecision_eq_unchanged_iff {snapshot : Snapshot} :
    (constantDecision snapshot.declarations constant).decision = .unchanged ↔
      ∃ member ∈ snapshot.members, constant.heldBy member = true :=
  constantDecision_eq_unchanged_iff_holds.trans exists_holds_iff

/-- What a class had and what is inserted hold every constant. -/
theorem exists_held_or_inserted (note : String) (snapshot : Snapshot) (member : constant ∈ constants) :
    ∃ declared, (declared ∈ snapshot.members ∨ declared ∈
        (constantInsertions note snapshot.declarations none 0 constants).map Insertion.toMember) ∧
      constant.heldBy declared = true := by
  by_cases held : ∃ declared ∈ snapshot.members, constant.heldBy declared = true
  · obtain ⟨declared, present, holds⟩ := held
    exact ⟨declared, .inl present, holds⟩
  · obtain ⟨_, insertion, planned, made⟩ :=
      exists_constantInsertion member (mt exists_holds_iff.mp held)
    exact ⟨_, .inr (List.mem_map_of_mem planned), (constantInsertion?_spec made).2.2⟩

/-- Where every constant is held, nothing is left to plan. -/
theorem planConstants_of_held (note : String) {snapshot : Snapshot}
    (held : ∀ constant ∈ constants, ∃ member ∈ snapshot.members, constant.heldBy member = true) :
    planConstants note constants snapshot.declarations =
      ⟨[], constants.map fun constant => ⟨constant.identifier, .unchanged⟩⟩ := by
  have insertions : constantInsertions note snapshot.declarations none 0 constants = [] :=
    constantInsertions_eq_nil fun constant member => exists_holds_iff.mpr (held constant member)
  have decisions : constants.map (constantDecision snapshot.declarations) =
      constants.map fun constant => ⟨constant.identifier, .unchanged⟩ := by
    refine List.map_congr_left fun constant member => ?_
    have unchanged := constantDecision_eq_unchanged_iff.mpr (held constant member)
    exact congrArg (ConstantDecision.mk constant.identifier) unchanged
  rw [planConstants, insertions, decisions]

theorem constantDecision_eq_insert_iff : (constantDecision existing constant).decision = .insert ↔
    ∀ declaration ∈ existing, declaration.identifier ≠ constant.identifier := by
  rw [← Verdict.of_eq_missing_iff, constantDecision]
  cases Verdict.of existing constant <;> simp [Verdict.decision]

end Constants

section Members
variable {note text : String} {snapshot : Snapshot} {generated : MemberText} {insertion : Insertion}

theorem isGeneratedText_self (note text : String) : isGeneratedText note text text = true := by
  simp [isGeneratedText, Text.sameButBlanks_refl]

theorem isGeneratedText_annotated (note text : String) :
    isGeneratedText note text (annotated note text) = true := by
  simp [isGeneratedText, Text.sameButBlanks_refl]

theorem Insertion.toMember_text? (insertion : Insertion) :
    insertion.toMember.text? = some insertion.text := by
  cases key : insertion.member <;> simp [Insertion.toMember, key, Member.text?]

theorem Insertion.toMember_literal {insertion : Insertion} {declaration : Declaration}
    (same : insertion.toMember = .field declaration) : declaration.literal = insertion.literal := by
  unfold Insertion.toMember at same
  split at same
  · cases same
    rfl
  · cases same

/-- The member has the generated text under the generated key, with or without the note. -/
def Generated (note : String) (generated : MemberText) (member : Member) : Prop :=
  member.key = generated.key ∧ member.text?.any (isGeneratedText note generated.text) = true

theorem memberInsertion?_eq_none_iff : memberInsertion? note snapshot generated = none ↔
    ∃ member ∈ snapshot.members, Generated note generated member := by
  unfold Generated
  rw [← MemberVerdict.of_eq_present_iff, memberInsertion?]
  cases MemberVerdict.of note snapshot generated <;> simp

theorem memberInsertion?_cases (made : memberInsertion? note snapshot generated = some insertion) :
    MemberVerdict.of note snapshot generated = .missing ∧
        insertion = ⟨.endOfClass, generated.key, generated.text, none, false⟩ ∨
      MemberVerdict.of note snapshot generated = .differing ∧ insertion =
        ⟨.afterExisting generated.key 0, generated.key, annotated note generated.text, none, true⟩ := by
  unfold memberInsertion? at made
  cases verdict : MemberVerdict.of note snapshot generated with
  | missing =>
    simp only [verdict, Option.some.injEq] at made
    exact .inl ⟨rfl, made.symm⟩
  | present => simp [verdict] at made
  | differing =>
    simp only [verdict, Option.some.injEq] at made
    exact .inr ⟨rfl, made.symm⟩

theorem memberInsertion?_spec (made : memberInsertion? note snapshot generated = some insertion) :
    insertion.member = generated.key ∧ insertion.literal = none ∧
      (insertion.text = generated.text ∨ insertion.text = annotated note generated.text) := by
  rcases memberInsertion?_cases made with ⟨_, rfl⟩ | ⟨_, rfl⟩
  · exact ⟨rfl, rfl, .inl rfl⟩
  · exact ⟨rfl, rfl, .inr rfl⟩

theorem memberInsertion?_generated
    (made : memberInsertion? note snapshot generated = some insertion) :
    Generated note generated insertion.toMember := by
  obtain ⟨key, _, text⟩ := memberInsertion?_spec made
  refine ⟨by rw [Insertion.toMember_key, key], ?_⟩
  rw [Insertion.toMember_text?, Option.any_some]
  rcases text with plain | noted
  · rw [plain]
    exact isGeneratedText_self _ _
  · rw [noted]
    exact isGeneratedText_annotated _ _

end Members

section Schema
variable {note : String} {snapshot merged : Snapshot} {artifacts : Schema.Artifacts}
  {insertion : Insertion}

def schemaInsertions (note : String) (snapshot : Snapshot) (artifacts : Schema.Artifacts) :
    List Insertion :=
  constantInsertions note snapshot.declarations none 0 artifacts.constants ++
    artifacts.members.filterMap (memberInsertion? note snapshot)

theorem schemaInstructions_eq (note : String) (snapshot : Snapshot) (artifacts : Schema.Artifacts) :
    schemaInstructions note snapshot artifacts =
      (schemaInsertions note snapshot artifacts).map .insert := by
  rw [schemaInsertions, List.map_append]
  rfl

theorem memberInsertions_keys (note : String) (snapshot : Snapshot) (members : List MemberText) :
    ((members.filterMap (memberInsertion? note snapshot)).map Insertion.member).Sublist
      (members.map MemberText.key) := by
  induction members with
  | nil => exact .slnil
  | cons generated more ih =>
    cases made : memberInsertion? note snapshot generated with
    | none =>
      rw [List.filterMap_cons_none made]
      exact ih.cons _
    | some insertion =>
      rw [List.filterMap_cons_some made, List.map_cons, List.map_cons, (memberInsertion?_spec made).1]
      exact ih.cons_cons _

/-- The insertions are under generated keys, in order and none twice. -/
theorem schemaInsertions_keys (note : String) (snapshot : Snapshot) (artifacts : Schema.Artifacts) :
    ((schemaInsertions note snapshot artifacts).map Insertion.member).Sublist artifacts.keys := by
  rw [schemaInsertions, List.map_append]
  exact (constantInsertions_keys ..).append (memberInsertions_keys ..)

theorem schemaInsertions_key (member : insertion ∈ schemaInsertions note snapshot artifacts) :
    insertion.member ∈ artifacts.keys :=
  (schemaInsertions_keys note snapshot artifacts).subset (List.mem_map_of_mem member)

/-- The class has all that is generated, so nothing is left to insert. -/
structure Settled (note : String) (artifacts : Schema.Artifacts) (snapshot : Snapshot) : Prop where
  constants : ∀ constant ∈ artifacts.constants,
    ∃ member ∈ snapshot.members, constant.heldBy member = true
  members : ∀ generated ∈ artifacts.members,
    ∃ member ∈ snapshot.members, Generated note generated member

theorem Settled.insertions (settled : Settled note artifacts snapshot) :
    schemaInsertions note snapshot artifacts = [] := by
  refine List.append_eq_nil_iff.mpr ⟨?_, ?_⟩
  · exact congrArg ConstantPlan.insertions (planConstants_of_held note settled.constants)
  · exact List.filterMap_eq_nil_iff.mpr fun generated member =>
      memberInsertion?_eq_none_iff.mpr (settled.members generated member)

/-- A class that keeps what it had under the generated keys, and gets what was planned, is settled. -/
theorem settled_of_merged (snapshot : Snapshot)
    (kept : ∀ member, member ∈ snapshot.members ∨
        member ∈ (schemaInsertions note snapshot artifacts).map Insertion.toMember →
      member.key ∈ artifacts.keys → member ∈ merged.members) :
    Settled note artifacts merged := by
  constructor
  · intro constant among
    have key : constant.key ∈ artifacts.keys :=
      List.mem_append_left _ (List.mem_map_of_mem among)
    obtain ⟨member, known, holds⟩ := exists_held_or_inserted note snapshot among
    refine ⟨member, kept member (known.imp_right fun inserted => ?_)
      (Constant.heldBy_key holds ▸ key), holds⟩
    rw [schemaInsertions, List.map_append]
    exact List.mem_append_left _ inserted
  · intro generated among
    have key : generated.key ∈ artifacts.keys :=
      List.mem_append_right _ (List.mem_map_of_mem among)
    cases made : memberInsertion? note snapshot generated with
    | none =>
      obtain ⟨member, present, found⟩ := memberInsertion?_eq_none_iff.mp made
      exact ⟨member, kept member (.inl present) (found.1 ▸ key), found⟩
    | some insertion =>
      have found := memberInsertion?_generated made
      have listed : insertion.toMember ∈
          (schemaInsertions note snapshot artifacts).map Insertion.toMember :=
        List.mem_map_of_mem (List.mem_append_right _ (List.mem_filterMap.mpr ⟨generated, among, made⟩))
      exact ⟨_, kept _ (.inr listed) (found.1 ▸ key), found⟩

end Schema
end Merge
end Boilerplate
