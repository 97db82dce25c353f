import Boilerplate.Proofs.Merge.Candidates

/-! Telling values apart. No initializer is matched by two different names, so for a constant whose
value is a name, as all generated values are, a plan decides by the values that the class declares: a
declaration of another value is never taken for the constant. -/
namespace Boilerplate.Merge
open Identifier (Legal)
variable {existing : List Declaration} {constant : Constant} {identifier value : String}

/-- The values of an identifier, in the order of its declarations. -/
def declaredValues (existing : List Declaration) (identifier : String) : List (Option String) :=
  (existing.filter fun declaration => declaration.identifier == identifier).map Declaration.value?

/-- An entry says how the value of a constant stands to those that are declared. -/
structure DecidedByValue (existing : List Declaration) (constant : Constant)
    (entry : ConstantDecision) : Prop where
  unchanged : entry.decision = .unchanged ↔
    some constant.value ∈ declaredValues existing constant.identifier
  insert : entry.decision = .insert ↔ declaredValues existing constant.identifier = []
  conflicting : entry.decision = .conflicting ↔ declaredValues existing constant.identifier ≠ [] ∧
    some constant.value ∉ declaredValues existing constant.identifier

theorem some_mem_declaredValues_iff : some value ∈ declaredValues existing identifier ↔
    ∃ declaration ∈ existing, declaration.identifier = identifier ∧
      declaration.value? = some value := by
  simp [declaredValues, and_assoc]

theorem declaredValues_eq_nil_iff : declaredValues existing identifier = [] ↔
    ∀ declaration ∈ existing, declaration.identifier ≠ identifier := by
  simp [declaredValues]

theorem decidedByValue (existing : List Declaration) (name : Legal constant.value) :
    DecidedByValue existing constant (constantDecision existing constant) := by
  have unchanged : (constantDecision existing constant).decision = .unchanged ↔
      some constant.value ∈ declaredValues existing constant.identifier := by
    rw [constantDecision_eq_unchanged_iff_holds, some_mem_declaredValues_iff]
    simp only [Constant.holds_iff_value? name.isWord]
  have insert : (constantDecision existing constant).decision = .insert ↔
      declaredValues existing constant.identifier = [] :=
    constantDecision_eq_insert_iff.trans declaredValues_eq_nil_iff.symm
  refine ⟨unchanged, insert, ?_⟩
  rw [ne_eq, ← unchanged, ← insert]
  cases (constantDecision existing constant).decision <;> simp

theorem legal_of_generate {g : Generator} {c : DataClass} {kind : ArtifactKind} {set : ArtifactSet}
    {artifacts : Schema.Artifacts} (generated : g.generate c kind = .ok set)
    (present : set.schema = some artifacts) : ∀ constant ∈ artifacts.constants, Legal constant.value := by
  have made := (Generator.generate_sound generated).1 artifacts present
  rw [Generator.schemaArtifacts_constants made]
  exact fun constant => Schema.legal_of_mem_constants (Generator.schemaArtifacts_eq_ok_iff.mp made).1

/-- Matching confuses no two values but a text and the same text in quotes. Of those only one can be a
name; generated values are names, and on them a plan decides by the values that are declared. -/
theorem values_told_apart :
    (∀ constant : Constant, Constant.readLiteral? constant.literal = some constant.value) ∧
    (∀ first second : Constant, first.literal = second.literal → first.value = second.value) ∧
    (∀ first second : Constant, (∃ initializer, first.matchesLiteral initializer = true ∧
        second.matchesLiteral initializer = true) ↔
      first.value = second.value ∨ first.value = second.literal ∨ second.value = first.literal) ∧
    (∀ first second : Constant, Legal first.value → Legal second.value →
      first.value ≠ second.value → ∀ initializer,
        ¬ (first.matchesLiteral initializer = true ∧ second.matchesLiteral initializer = true)) ∧
    (∀ (note : String) (constants : List Constant) (existing : List Declaration),
      List.Forall₂ (fun constant entry => Legal constant.value →
        DecidedByValue existing constant entry)
        constants (planConstants note constants existing).decisions) ∧
    ∀ (g : Generator) (c : DataClass) (kind : ArtifactKind) (set : ArtifactSet)
      (artifacts : Schema.Artifacts), g.generate c kind = .ok set → set.schema = some artifacts →
      (∀ constant ∈ artifacts.constants, Legal constant.value) ∧
      ∀ (note : String) (snapshot : Snapshot),
        List.Forall₂ (DecidedByValue snapshot.declarations) artifacts.constants
          (planClass note set snapshot).decisions := by
  refine ⟨Constant.readLiteral?_literal, fun _ _ => Constant.literal_injective,
    fun _ _ => Constant.exists_matchesLiteral_iff,
    fun _ _ name nameToo => Constant.not_matchesLiteral_both name.isWord nameToo.isWord,
    fun note constants existing => ?_, fun g c kind set artifacts generated present => ?_⟩
  · refine List.forall₂_map_right_iff.mpr (List.forall₂_same.mpr fun constant _ name => ?_)
    exact decidedByValue existing name
  · have names := legal_of_generate generated present
    refine ⟨names, fun note snapshot => ?_⟩
    rw [planClass_decisions present]
    refine List.forall₂_map_right_iff.mpr (List.forall₂_same.mpr fun constant member => ?_)
    exact decidedByValue snapshot.declarations (names constant member)

/-- What a class called `Spot` has of its table. -/
def spotTable : List Declaration := [⟨"TABLE", some " \"Spot\" ", none⟩]

example : (planConstants "check" [Schema.tableConstant .point] spotTable).decisions =
    [⟨"TABLE", .conflicting⟩] := by decide

theorem values_told_apart_point :
    Constant.readLiteral? (Constant.literal ⟨"PATH", "C:\\\"tmp\"\\", none⟩) =
      some "C:\\\"tmp\"\\" ∧
    (∃ initializer, Constant.matchesLiteral ⟨"NAME", "name", none⟩ initializer = true ∧
      Constant.matchesLiteral ⟨"NAME", "\"name\"", none⟩ initializer = true) ∧
    Legal "Point" ∧ Legal "Spot" ∧ "Point" ≠ "Spot" ∧
    (∀ initializer, ¬ (Constant.matchesLiteral ⟨"TABLE", "Point", none⟩ initializer = true ∧
      Constant.matchesLiteral ⟨"TABLE", "Spot", none⟩ initializer = true)) ∧
    (∃ entry ∈ (planConstants "check" [Schema.tableConstant .point] spotTable).decisions,
      DecidedByValue spotTable (Schema.tableConstant .point) entry) ∧
    ∃ set artifacts, Toolchain.standard.generator.generate .point .schema = .ok set ∧
      set.schema = some artifacts ∧ (∀ constant ∈ artifacts.constants, Legal constant.value) ∧
      ∀ (note : String) (snapshot : Snapshot),
        List.Forall₂ (DecidedByValue snapshot.declarations) artifacts.constants
          (planClass note set snapshot).decisions := by
  obtain ⟨read, _, both, apart, planned, generated⟩ := values_told_apart
  have point : Legal "Point" := Identifier.isLegal_iff.mp (by decide)
  have spot : Legal "Spot" := Identifier.isLegal_iff.mp (by decide)
  have other : "Point" ≠ "Spot" := by decide
  obtain ⟨artifacts, _, made⟩ :=
    Generator.generate_schema (g := Toolchain.standard.generator) DataClass.point_valid
  refine ⟨read _, (both _ _).mpr (.inr (.inr rfl)), point, spot, other, apart _ _ point spot other,
    ?_, _, artifacts, made, rfl, generated _ _ _ _ _ made rfl⟩
  cases planned "check" [Schema.tableConstant .point] spotTable with
  | cons decided _ => exact ⟨_, List.mem_cons_self, decided point⟩

end Boilerplate.Merge
