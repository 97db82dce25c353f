import Boilerplate.Proofs.Merge.Increment

/-! Constants on their own, whatever they are: they may share identifiers and hold any text. A plan
for them makes one insertion for each that the class does not hold, and on the class after it nothing
is left to plan, under any note. -/
namespace Boilerplate

theorem Snapshot.ofDeclarations_declarations (existing : List Declaration) :
    (ofDeclarations existing).declarations = existing := by
  rw [declarations, ofDeclarations, List.filterMap_map]
  exact List.filterMap_some

namespace Merge
variable {note : String} {constants : List Constant} {existing : List Declaration}

/-- The class of these declarations after the insertions of a plan. -/
def ConstantPlan.merged (plan : ConstantPlan) (existing : List Declaration) : Snapshot :=
  apply (.ofDeclarations existing) (.ofInsertions plan.insertions)

theorem ConstantPlan.mem_merged_iff {plan : ConstantPlan} {member : Member} :
    member ∈ (plan.merged existing).members ↔ member ∈ (Snapshot.ofDeclarations existing).members ∨
      member ∈ plan.insertions.map Insertion.toMember := by
  rw [merged, apply, EditPlan.ofInsertions, Layout.foldl_step_insert, Layout.members_toSnapshot,
    (Layout.members_insertAll _ _).mem_iff, List.mem_append]

/-- The class after a plan holds every constant that was planned for. -/
theorem exists_held_merged (note : String) (existing : List Declaration)
    (member : constant ∈ constants) :
    ∃ declared ∈ ((planConstants note constants existing).merged existing).members,
      constant.heldBy declared = true := by
  obtain ⟨declared, known, held⟩ :=
    exists_held_or_inserted note (.ofDeclarations existing) member
  rw [Snapshot.ofDeclarations_declarations] at known
  exact ⟨declared, ConstantPlan.mem_merged_iff.mpr known, held⟩

/-- Where nothing was merged earlier, a decision is about the declarations alone. -/
theorem decidedAfter_nothing (existing : List Declaration) (constant : Constant) :
    DecidedAfter (.ofDeclarations existing) [] constant (constantDecision existing constant) := by
  refine .mk_of_iff ?_ ?_
  · simpa [Known, Snapshot.ofDeclarations_declarations] using constantDecision_eq_unchanged_iff_holds
  · simpa [Free, Snapshot.ofDeclarations_declarations] using constantDecision_eq_insert_iff

/-- What the decisions on constants call for: an insertion for each that is not unchanged, marked
where the declarations conflict. -/
def calledFor (constants : List Constant) (decisions : List ConstantDecision) :
    List (MemberKey × Option String × Bool) :=
  ((constants.zip decisions).filter fun pair => pair.2.decision != .unchanged).map fun pair =>
    (pair.1.key, some pair.1.literal, pair.2.decision == .conflicting)

theorem planConstants_entries (note : String) (constants : List Constant)
    (existing : List Declaration) :
    (planConstants note constants existing).insertions.map Insertion.entry =
      calledFor constants (planConstants note constants existing).decisions := by
  have pairs : constants.zip (constants.map (constantDecision existing)) =
      constants.map fun constant => (constant, constantDecision existing constant) := by
    rw [← List.zip_map', List.map_id']
  rw [planConstants, calledFor, pairs, List.filter_map, List.map_map]
  exact constantInsertions_entries note existing none 0 constants

/-- A plan decides on each constant by what the class declares and inserts, in their order, just what
the decisions call for. That leaves nothing to a plan after it, under whatever note. -/
theorem candidates_settle (note later : String) (constants : List Constant)
    (existing : List Declaration) :
    let plan := planConstants note constants existing
    List.Forall₂ (DecidedAfter (.ofDeclarations existing) []) constants plan.decisions ∧
      plan.insertions.map Insertion.entry = calledFor constants plan.decisions ∧
      planConstants later constants (plan.merged existing).declarations =
        ⟨[], constants.map fun constant => ⟨constant.identifier, .unchanged⟩⟩ := by
  refine ⟨?_, planConstants_entries note constants existing, ?_⟩
  · refine List.forall₂_map_right_iff.mpr (List.forall₂_same.mpr fun constant _ => ?_)
    exact decidedAfter_nothing existing constant
  · exact planConstants_of_held later fun constant member => exists_held_merged note existing member

end Merge
end Boilerplate
