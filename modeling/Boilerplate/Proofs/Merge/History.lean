import Boilerplate.Proofs.Merge.Outcome

/-! Runs of plans, each step with a toolchain, a class and a kind of its own. What one step inserts
for a constant or a schema member stays, whatever is replaced later, and every later step finds it.
So a run inserts no value of a constant twice, and under one note no text of a schema member. -/
namespace Boilerplate
namespace Merge
open Schema (MemberText)

structure Step where
  toolchain : Toolchain
  dataClass : DataClass
  kind : ArtifactKind
  outcome : PlanOutcome

def Step.StartsFrom (step : Step) (snapshot : Snapshot) : Prop :=
  step.toolchain.plan step.dataClass snapshot step.kind = .ok step.outcome

theorem exists_step {t : Toolchain} {set : ArtifactSet}
    (generated : t.generator.generate c kind = .ok set) (snapshot : Snapshot) :
    ∃ outcome, Step.StartsFrom ⟨t, c, kind, outcome⟩ snapshot :=
  ⟨⟨planClass t.note set snapshot, classMerged t.note set snapshot⟩,
    Toolchain.plan_eq_ok_iff.mpr ⟨set, generated, rfl⟩⟩

/-- Steps one after another, each on the class that the one before leaves. -/
inductive Run : Snapshot → List Step → Prop where
  | done : Run snapshot []
  | next {snapshot : Snapshot} {step : Step} {more : List Step} : step.StartsFrom snapshot →
      Run step.outcome.merged more → Run snapshot (step :: more)

def insertionsOf (steps : List Step) : List Insertion :=
  steps.flatMap fun step => step.outcome.plan.insertions

/-- The insertion is of a constant with that value. -/
def Insertion.declares (identifier value : String) (insertion : Insertion) : Bool :=
  insertion.member == .field identifier &&
    insertion.literal == some (Constant.literal ⟨identifier, value, none⟩)

/-- The insertion is of that member, annotated or not. -/
def Insertion.copies (note : String) (generated : MemberText) (insertion : Insertion) : Bool :=
  insertion.member == generated.key &&
    (insertion.text == generated.text || insertion.text == annotated note generated.text)

section Latches
variable {reached : Snapshot → Prop} {asked : Step → Bool} {test : Insertion → Bool}

/-- A property of classes that every step keeps. A step that is asked inserts nothing that passes
the test where the property holds, and otherwise at most one such thing, which brings it about. -/
structure Latch (reached : Snapshot → Prop) (asked : Step → Bool) (test : Insertion → Bool) :
    Prop where
  keeps : ∀ {snapshot : Snapshot} {step : Step}, step.StartsFrom snapshot → reached snapshot →
    reached step.outcome.merged
  blocks : ∀ {snapshot : Snapshot} {step : Step}, step.StartsFrom snapshot → asked step = true →
    reached snapshot → step.outcome.plan.insertions.countP test = 0
  once : ∀ {snapshot : Snapshot} {step : Step}, step.StartsFrom snapshot → asked step = true →
    step.outcome.plan.insertions.countP test ≤ 1
  closes : ∀ {snapshot : Snapshot} {step : Step}, step.StartsFrom snapshot → asked step = true →
    step.outcome.plan.insertions.countP test ≠ 0 → reached step.outcome.merged

theorem Latch.countP_eq_zero (latch : Latch reached asked test) (run : Run snapshot steps)
    (already : reached snapshot) : (insertionsOf (steps.filter asked)).countP test = 0 := by
  induction run with
  | done => rfl
  | @next snapshot step more start _ ih =>
    have later := ih (latch.keeps start already)
    cases wanted : asked step with
    | false => rwa [List.filter_cons_of_neg (by simp [wanted])]
    | true =>
      rw [List.filter_cons_of_pos wanted, insertionsOf, List.flatMap_cons, List.countP_append,
        latch.blocks start wanted already, Nat.zero_add]
      exact later

theorem Latch.countP_le_one (latch : Latch reached asked test) (run : Run snapshot steps) :
    (insertionsOf (steps.filter asked)).countP test ≤ 1 := by
  induction run with
  | done => exact Nat.zero_le 1
  | @next snapshot step more start rest ih =>
    cases wanted : asked step with
    | false => rwa [List.filter_cons_of_neg (by simp [wanted])]
    | true =>
      rw [List.filter_cons_of_pos wanted, insertionsOf, List.flatMap_cons, List.countP_append]
      have bound := latch.once start wanted
      by_cases none : step.outcome.plan.insertions.countP test = 0
      · rw [none, Nat.zero_add]
        exact ih
      -- The step made the one insertion, and after it there are none.
      · have closed : (insertionsOf (more.filter asked)).countP test = 0 :=
          latch.countP_eq_zero rest (latch.closes start wanted none)
        rw [insertionsOf] at closed
        omega

end Latches

section Steps
variable {note : String} {set : ArtifactSet} {snapshot : Snapshot} {insertion : Insertion}
  {g : Generator} {c : DataClass} {kind : ArtifactKind}

/-- What is never replaced stays in the class, and gets there when it is inserted. -/
theorem mem_classMerged (never : ∀ parcel : Parcel.Artifacts, member.key ∉ parcel.replacedMembers)
    (known : member ∈ snapshot.members ∨
      member ∈ (baseInsertions note set snapshot).map Insertion.toMember) :
    member ∈ (classMerged note set snapshot).members := by
  have present : member ∈ (baseMerged note set snapshot).members := by
    rw [baseMerged_eq]
    exact (Layout.members_insertAll snapshot _).mem_iff.mpr (List.mem_append.mpr known)
  unfold classMerged
  cases set.parcelable with
  | none => exact present
  | some parcel =>
    refine List.mem_append_left _ (List.mem_filter.mpr ⟨present, ?_⟩)
    simpa using never parcel

theorem baseInsertions_keys_nodup (note : String) (snapshot : Snapshot)
    (generated : g.generate c kind = .ok set) :
    ((baseInsertions note set snapshot).map Insertion.member).Nodup := by
  unfold baseInsertions
  cases present : set.schema with
  | none => exact .nil
  | some artifacts =>
    have made := (Generator.generate_sound generated).1 artifacts present
    exact (schemaInsertions_keys ..).nodup (Generator.schemaArtifacts_keys_nodup made)

theorem mem_baseInsertions (generated : g.generate c kind = .ok set)
    (member : insertion ∈ baseInsertions note set snapshot) :
    ∃ artifacts, g.schemaArtifacts c = .ok artifacts ∧
      ((∃ constant ∈ artifacts.constants, ∃ processed,
          constantInsertion? note snapshot.declarations processed constant = some insertion) ∨
        ∃ text ∈ artifacts.members, memberInsertion? note snapshot text = some insertion) := by
  unfold baseInsertions at member
  cases present : set.schema with
  | none => simp [present] at member
  | some artifacts =>
    simp only [present] at member
    refine ⟨artifacts, (Generator.generate_sound generated).1 artifacts present, ?_⟩
    rcases List.mem_append.mp member with declared | other
    · exact .inl (mem_constantInsertions declared)
    · exact .inr (List.mem_filterMap.mp other)

/-- A test of insertions under one key, none of them a Parcelable member's, makes a latch. -/
theorem latch_of_insertions {reached : Snapshot → Prop} {asked : Step → Bool}
    {test : Insertion → Bool} (key : MemberKey)
    (keeps : ∀ note set snapshot, reached snapshot → reached (classMerged note set snapshot))
    (keyed : ∀ insertion, test insertion = true → insertion.member = key)
    (others : ∀ {g : Generator} {c kind set} (snapshot), g.generate c kind = .ok set →
      ∀ insertion ∈ parcelableInsertions set snapshot, test insertion = false)
    (fresh : ∀ {step : Step} {set} (snapshot), asked step = true →
      step.toolchain.generator.generate step.dataClass step.kind = .ok set →
      ∀ insertion ∈ baseInsertions step.toolchain.note set snapshot, test insertion = true →
        ¬ reached snapshot ∧ reached (classMerged step.toolchain.note set snapshot)) :
    Latch reached asked test := by
  have count {g : Generator} {c kind set} (note snapshot) (generated : g.generate c kind = .ok set) :
      (planClass note set snapshot).insertions.countP test =
        (baseInsertions note set snapshot).countP test := by
    have none : (parcelableInsertions set snapshot).countP test = 0 :=
      List.countP_eq_zero.mpr fun insertion member => by simp [others snapshot generated _ member]
    rw [planClass_insertions, List.countP_append, none, Nat.add_zero]
  constructor
  · intro snapshot step start already
    obtain ⟨set, _, same⟩ := Toolchain.plan_eq_ok_iff.mp start
    rw [same]
    exact keeps _ _ _ already
  · intro snapshot step start wanted already
    obtain ⟨set, generated, same⟩ := Toolchain.plan_eq_ok_iff.mp start
    rw [same, count _ _ generated]
    exact List.countP_eq_zero.mpr fun insertion member passes =>
      (fresh snapshot wanted generated insertion member passes).1 already
  · intro snapshot step start wanted
    obtain ⟨set, generated, same⟩ := Toolchain.plan_eq_ok_iff.mp start
    rw [same, count _ _ generated]
    have keys := baseInsertions_keys_nodup step.toolchain.note snapshot generated
    have single := List.nodup_iff_count.mp keys key
    rw [List.count, List.countP_map] at single
    refine Nat.le_trans (List.countP_mono_left fun insertion _ passes => ?_) single
    exact beq_iff_eq.mpr (keyed insertion passes)
  · intro snapshot step start wanted some
    obtain ⟨set, generated, same⟩ := Toolchain.plan_eq_ok_iff.mp start
    rw [same, count _ _ generated] at some
    rw [same]
    obtain ⟨insertion, member, passes⟩ := List.countP_pos_iff.mp (Nat.pos_of_ne_zero some)
    exact (fresh snapshot wanted generated insertion member passes).2

theorem declares_iff {identifier value : String} : insertion.declares identifier value = true ↔
    insertion.member = .field identifier ∧
      insertion.literal = some (Constant.literal ⟨identifier, value, none⟩) := by
  simp [Insertion.declares]

/-- Once a class declares a constant with a value, no step inserts it. -/
theorem constant_latch (identifier value : String) :
    Latch (fun snapshot => identifier = Identifier.creator ∨
        ∃ member ∈ snapshot.members, Constant.heldBy ⟨identifier, value, none⟩ member = true)
      (fun _ => true) (Insertion.declares identifier value) := by
  have never (other : identifier ≠ Identifier.creator) {member : Member}
      (held : Constant.heldBy ⟨identifier, value, none⟩ member = true) (parcel : Parcel.Artifacts) :
      member.key ∉ parcel.replacedMembers := by
    rw [Constant.heldBy_key held]
    exact parcel.fieldKey_not_replaced other
  refine latch_of_insertions (.field identifier) ?_ (fun insertion passes => (declares_iff.mp passes).1)
    ?_ ?_
  · rintro note set snapshot (creator | ⟨member, present, held⟩)
    · exact .inl creator
    · by_cases creator : identifier = Identifier.creator
      · exact .inl creator
      · exact .inr ⟨member, mem_classMerged (never creator held) (.inl present), held⟩
  · intro g c kind set snapshot generated insertion member
    obtain ⟨_, _, new, _, rfl⟩ := mem_parcelableInsertions member
    simp [Insertion.declares]
  · intro step set snapshot _ generated insertion member passes
    obtain ⟨key, literal⟩ := declares_iff.mp passes
    have listed := List.mem_map_of_mem (f := Insertion.toMember) member
    obtain ⟨artifacts, made, ⟨constant, among, processed, inserted⟩ | ⟨_, _, inserted⟩⟩ :=
      mem_baseInsertions generated member
    · obtain ⟨ownKey, ownLiteral, held⟩ := constantInsertion?_spec inserted
      obtain rfl : constant.identifier = identifier := MemberKey.field.inj (ownKey.symm.trans key)
      obtain rfl : constant.value = value :=
        Constant.literal_injective (Option.some.inj (ownLiteral.symm.trans literal))
      rw [Generator.schemaArtifacts_constants made] at among
      have other := (Schema.identifier_of_mem_constants among).ne_creator
      rw [Constant.heldBy_value]
      constructor
      · rintro (creator | already)
        · exact other creator
        · exact not_held_of_insertion inserted already
      · exact .inr ⟨insertion.toMember, mem_classMerged (never other held) (.inr listed), held⟩
    · rw [(memberInsertion?_spec inserted).2.1] at literal
      cases literal

theorem copies_iff {generated : MemberText} : insertion.copies note generated = true ↔
    insertion.member = generated.key ∧
      (insertion.text = generated.text ∨ insertion.text = annotated note generated.text) := by
  simp [Insertion.copies]

theorem annotated_injective (same : annotated note first = annotated note second) :
    first = second := by
  have chars := congrArg String.toList same
  simp only [annotated, String.toList_append] at chars
  exact String.toList_injective (List.append_cancel_left chars)

/-- Not even up to blanks. -/
theorem squeeze_ne_annotated (start : ['p'] <+: text.toList) :
    Text.squeeze text ≠ Text.squeeze (annotated note other) := by
  intro same
  have front := start.filter (!Text.isBlank ·)
  change ['p'] <+: Text.squeeze text at front
  rw [same, annotated, Text.squeeze_append, Text.squeeze_append, Text.squeeze_append] at front
  change ['p'] <+: '/' :: _ at front
  simp at front

theorem ne_annotated (start : ['p'] <+: text.toList) : text ≠ annotated note other :=
  fun same => squeeze_ne_annotated start (congrArg Text.squeeze same)

theorem text_eq_of_insertion {insertion first second : String} (one : ['p'] <+: first.toList)
    (other : ['p'] <+: second.toList) (ofFirst : insertion = first ∨ insertion = annotated note first)
    (ofSecond : insertion = second ∨ insertion = annotated note second) : first = second := by
  rcases ofFirst with rfl | rfl
  · exact ofSecond.resolve_right (ne_annotated one)
  · rcases ofSecond with same | same
    · exact absurd same.symm (ne_annotated other)
    · exact annotated_injective same

/-- Once a class has a generated member, no step with that note inserts it. -/
theorem member_latch (note : String) {artifacts : Schema.Artifacts} {generated : MemberText}
    (made : g.schemaArtifacts c = .ok artifacts) (among : generated ∈ artifacts.members) :
    Latch (fun snapshot => ∃ member ∈ snapshot.members, Generated note generated member)
      (fun step => step.toolchain.note == note) (Insertion.copies note generated) := by
  have ownKey : generated.key ∈ Schema.memberKeys := by
    rw [← artifacts.members_keys]
    exact List.mem_map_of_mem among
  have start := Generator.schemaArtifacts_text made among
  have never {member : Member} (found : Generated note generated member) (parcel : Parcel.Artifacts) :
      member.key ∉ parcel.replacedMembers := by
    rw [found.1]
    exact parcel.memberKey_not_replaced ownKey
  refine latch_of_insertions generated.key ?_ (fun insertion passes => (copies_iff.mp passes).1) ?_ ?_
  · rintro _ set snapshot ⟨member, present, found⟩
    exact ⟨member, mem_classMerged (never found) (.inl present), found⟩
  · intro g c kind set snapshot made' insertion member
    obtain ⟨parcel, present, new, here, rfl⟩ := mem_parcelableInsertions member
    have ownMade := (Generator.generate_sound made').2 parcel present
    obtain rfl := (Generator.parcelableArtifacts_sound ownMade).2
    refine Bool.eq_false_iff.mpr fun passes => ?_
    obtain ⟨key, text⟩ : new.key = generated.key ∧
        (new.text = generated.text ∨ new.text = annotated note generated.text) := copies_iff.mp passes
    rw [← key] at ownKey
    obtain ⟨named, contentValues, given⟩ := Parcel.Artifacts.member_of_memberKeys here ownKey
    rw [Parcel.defaultConstructor_of_artifacts given, show c.name = _ from named] at text
    rcases text with plain | noted
    · have ownContentValues := key.symm.trans contentValues
      exact Generator.schemaArtifacts_text_ne_defaultConstructor made among ownContentValues plain.symm
    · exact ne_annotated (by decide) noted
  · intro step set snapshot asked made' insertion member passes
    obtain rfl : step.toolchain.note = note := by simpa using asked
    obtain ⟨key, text⟩ := copies_iff.mp passes
    have listed := List.mem_map_of_mem (f := Insertion.toMember) member
    obtain ⟨artifacts', ownMade, ⟨constant, here, _, inserted⟩ | ⟨other, here, inserted⟩⟩ :=
      mem_baseInsertions made' member
    · rw [(constantInsertion?_spec inserted).1] at key
      rw [Generator.schemaArtifacts_constants ownMade] at here
      have apart := Schema.constantKey_not_mem_memberKeys (Schema.identifier_of_mem_constants here)
      rw [← key] at ownKey
      exact absurd ownKey apart
    · obtain ⟨otherKey, _, otherText⟩ := memberInsertion?_spec inserted
      have same : other = generated := by
        have otherStart := Generator.schemaArtifacts_text ownMade here
        have texts := text_eq_of_insertion otherStart start otherText text
        cases other
        cases generated
        simp_all
      subst same
      have found := memberInsertion?_generated inserted
      constructor
      · intro already
        rw [memberInsertion?_eq_none_iff.mpr already] at inserted
        cases inserted
      · exact ⟨insertion.toMember, mem_classMerged (never found) (.inr listed), found⟩

end Steps

/-- However a run goes back and forth between classes, each value of a constant is inserted at most
once, not at all when the class declared it from the start, and each generated text of a schema
member at most once under one note. -/
theorem Run.insertions_at_most_once (run : Run snapshot steps) :
    (∀ identifier value,
      (insertionsOf steps).countP (Insertion.declares identifier value) ≤ 1 ∧
      ((∃ declaration ∈ snapshot.declarations,
          Constant.holds ⟨identifier, value, none⟩ declaration = true) →
        (insertionsOf steps).countP (Insertion.declares identifier value) = 0)) ∧
    ∀ (note : String) (g : Generator) (c : DataClass) (artifacts : Schema.Artifacts),
      g.schemaArtifacts c = .ok artifacts → ∀ generated ∈ artifacts.members,
        (insertionsOf (steps.filter fun step => step.toolchain.note == note)).countP
          (Insertion.copies note generated) ≤ 1 := by
  have all : (steps.filter fun _ => true) = steps := List.filter_eq_self.mpr fun _ _ => rfl
  refine ⟨fun identifier value => ⟨?_, fun declared => ?_⟩, ?_⟩
  · have bound := (constant_latch identifier value).countP_le_one run
    rwa [all] at bound
  · have held := exists_holds_iff.mp declared
    have none := (constant_latch identifier value).countP_eq_zero run (.inr held)
    rwa [all] at none
  · intro note g c artifacts made generated member
    exact (member_latch note made member).countP_le_one run

/-- A class that is renamed and gets its old name back. -/
theorem Run.insertions_at_most_once_point : ∃ first second third,
    Run .empty [⟨.standard, .point, .schema, first⟩,
      ⟨.standard, { DataClass.point with name := "Place" }, .all, second⟩,
      ⟨.standard, .point, .schema, third⟩] ∧
    (insertionsOf [⟨.standard, .point, .schema, first⟩,
      ⟨.standard, { DataClass.point with name := "Place" }, .all, second⟩,
      ⟨.standard, .point, .schema, third⟩]).countP (Insertion.declares "TABLE" "Point") ≤ 1 := by
  obtain ⟨_, _, point⟩ :=
    Generator.generate_schema (g := Toolchain.standard.generator) DataClass.point_valid
  have place := Generator.generate_all (g := Toolchain.standard.generator)
    (c := { DataClass.point with name := "Place" }) rfl rfl
  obtain ⟨first, one⟩ := exists_step point .empty
  obtain ⟨second, two⟩ := exists_step place first.merged
  obtain ⟨third, three⟩ := exists_step point second.merged
  have run := Run.next one (.next two (.next three .done))
  exact ⟨first, second, third, run, ((insertions_at_most_once run).1 _ _).1⟩

end Merge
end Boilerplate
