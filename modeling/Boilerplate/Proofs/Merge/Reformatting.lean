import Boilerplate.Proofs.Merge.Outcome
import Boilerplate.Proofs.Text.Blank
import Mathlib.Data.List.Forall2

/-! Plans and the layout of a class. The planner reads a class only in its tidy form, in which texts
have no blanks and literals none at their ends: the plan for a class is the plan for its tidy form. So
two classes that differ in layout only get the same plan. -/
namespace Boilerplate

namespace Text

/-- The text without its blanks. -/
def bare (s : String) : String := String.ofList (squeeze s)

theorem squeeze_bare (s : String) : squeeze (bare s) = squeeze s := by
  rw [bare, squeeze, squeeze, String.toList_ofList, List.filter_filter]
  simp

theorem bare_eq_iff (s t : String) : bare s = bare t ↔ sameButBlanks s t = true := by
  rw [sameButBlanks_iff, bare, bare, String.ofList_inj]

theorem sameButBlanks_bare (s t : String) : sameButBlanks (bare s) t = sameButBlanks s t := by
  rw [sameButBlanks, sameButBlanks, squeeze_bare]

end Text

/-- Blanks matter neither in a text nor around a literal. -/
def Declaration.tidied (declaration : Declaration) : Declaration :=
  ⟨declaration.identifier, declaration.literal.map Text.trim, declaration.text.map Text.bare⟩

def Method.tidied (method : Method) : Method :=
  { method with text := method.text.map Text.bare }

namespace Member

def tidied : Member → Member
  | field d => field d.tidied
  | method m => method m.tidied

/-- The initializer of a field, when it is a string. -/
def literal? : Member → Option String
  | field d => d.literal
  | method _ => none

theorem tidied_key (member : Member) : member.tidied.key = member.key := by
  cases member <;> rfl

theorem tidied_text? (member : Member) : member.tidied.text? = member.text?.map Text.bare := by
  cases member <;> rfl

theorem tidied_literal? (member : Member) : member.tidied.literal? = member.literal?.map Text.trim := by
  cases member <;> rfl

/-- The key, the text and the literal are all there is to a member. -/
theorem eq_of_parts {member other : Member} (key : member.key = other.key)
    (text : member.text? = other.text?) (literal : member.literal? = other.literal?) :
    member = other := by
  cases member with
  | field d =>
    cases other with
    | field e =>
      obtain ⟨_, _, _⟩ := d
      obtain ⟨_, _, _⟩ := e
      cases key
      cases text
      cases literal
      rfl
    | method n => cases key
  | method m =>
    cases other with
    | field e => cases key
    | method n =>
      obtain ⟨_, _, _⟩ := m
      obtain ⟨_, _, _⟩ := n
      cases key
      cases text
      rfl

theorem tidied_declaration? (member : Member) :
    member.tidied.declaration? = member.declaration?.map Declaration.tidied := by
  cases member <;> rfl

end Member

namespace Snapshot

def tidied (snapshot : Snapshot) : Snapshot :=
  { snapshot with members := snapshot.members.map Member.tidied }

theorem tidied_declarations (snapshot : Snapshot) :
    snapshot.tidied.declarations = snapshot.declarations.map Declaration.tidied := by
  rw [declarations, tidied, List.filterMap_map, declarations, List.map_filterMap]
  congr
  funext member
  exact member.tidied_declaration?

theorem tidied_contains (snapshot : Snapshot) : snapshot.tidied.contains = snapshot.contains := by
  funext key
  simp [contains, tidied, List.any_map, Function.comp_def, Member.tidied_key]

theorem tidied_implements (snapshot : Snapshot) (interface : String) :
    snapshot.tidied.implements interface = snapshot.implements interface := rfl

end Snapshot

namespace Constant

theorem matchesLiteral_trim (constant : Constant) (initializer : String) :
    constant.matchesLiteral (Text.trim initializer) = constant.matchesLiteral initializer := by
  rw [matchesLiteral, matchesLiteral, Text.trim_trim]

end Constant

namespace Merge
open Schema (MemberText)

section Constants

def Verdict.tidied : Verdict → Verdict
  | missing => missing
  | held occurrence => held occurrence
  | differing first => differing first.tidied

/-- The occurrence that is found is the same, since no declaration changes its place. -/
theorem Verdict.of_tidied (existing : List Declaration) (constant : Constant) :
    Verdict.of (existing.map Declaration.tidied) constant = (Verdict.of existing constant).tidied := by
  have same : (existing.map Declaration.tidied).filter
      (fun declaration => declaration.identifier == constant.identifier) =
        (existing.filter fun declaration =>
          declaration.identifier == constant.identifier).map Declaration.tidied := by
    rw [List.filter_map]
    rfl
  have matched : (fun declaration => declaration.literal.any constant.matchesLiteral) ∘
      Declaration.tidied = fun declaration => declaration.literal.any constant.matchesLiteral := by
    funext declaration
    cases literal : declaration.literal <;>
      simp [Declaration.tidied, literal, Constant.matchesLiteral_trim]
  unfold Verdict.of
  rw [same]
  cases existing.filter fun declaration => declaration.identifier == constant.identifier with
  | nil => rfl
  | cons first more =>
    dsimp only
    rw [List.findIdx?_map, matched]
    cases (first :: more).findIdx? fun declaration =>
      declaration.literal.any constant.matchesLiteral <;> rfl

theorem constantInsertion?_tidied (note : String) (existing : List Declaration)
    (previous : Option Anchor) (constant : Constant) :
    constantInsertion? note (existing.map Declaration.tidied) previous constant =
      constantInsertion? note existing previous constant := by
  unfold constantInsertion?
  rw [Verdict.of_tidied]
  cases Verdict.of existing constant <;> rfl

theorem processedAnchor_tidied (existing : List Declaration) (index : Nat) (constant : Constant) :
    processedAnchor (existing.map Declaration.tidied) index constant =
      processedAnchor existing index constant := by
  unfold processedAnchor
  rw [Verdict.of_tidied]
  cases Verdict.of existing constant <;> rfl

theorem constantInsertions_tidied (note : String) (existing : List Declaration)
    (previous : Option Anchor) (index : Nat) (constants : List Constant) :
    constantInsertions note (existing.map Declaration.tidied) previous index constants =
      constantInsertions note existing previous index constants := by
  induction constants generalizing previous index with
  | nil => rfl
  | cons constant more ih =>
    rw [constantInsertions_cons, constantInsertions_cons, constantInsertion?_tidied,
      processedAnchor_tidied, ih]

theorem constantDecision_tidied (existing : List Declaration) (constant : Constant) :
    constantDecision (existing.map Declaration.tidied) constant = constantDecision existing constant := by
  unfold constantDecision
  rw [Verdict.of_tidied]
  cases Verdict.of existing constant <;> rfl

/-- A plan for constants takes the declarations as they are tidied. -/
theorem planConstants_tidied (note : String) (constants : List Constant)
    (existing : List Declaration) :
    planConstants note constants (existing.map Declaration.tidied) =
      planConstants note constants existing := by
  unfold planConstants
  rw [constantInsertions_tidied]
  congr 1
  exact List.map_congr_left fun constant _ => constantDecision_tidied existing constant

end Constants

section Members

theorem isGeneratedText_bare (note text existing : String) :
    isGeneratedText note text (Text.bare existing) = isGeneratedText note text existing := by
  rw [isGeneratedText, isGeneratedText, Text.sameButBlanks_bare, Text.sameButBlanks_bare]

theorem MemberVerdict.of_tidied (note : String) (snapshot : Snapshot) (member : MemberText) :
    MemberVerdict.of note snapshot.tidied member = MemberVerdict.of note snapshot member := by
  have same : snapshot.tidied.members.filter (fun existing => existing.key == member.key) =
      (snapshot.members.filter fun existing => existing.key == member.key).map Member.tidied := by
    rw [Snapshot.tidied, List.filter_map]
    simp only [Function.comp_def, Member.tidied_key]
  have found (existing : Member) :
      existing.tidied.text?.any (isGeneratedText note member.text) =
        existing.text?.any (isGeneratedText note member.text) := by
    rw [Member.tidied_text?]
    cases existing.text? with
    | none => rfl
    | some text => exact isGeneratedText_bare note member.text text
  unfold MemberVerdict.of
  simp only [same, List.isEmpty_map, List.any_map, Function.comp_def, found]

theorem memberInsertion?_tidied (note : String) (snapshot : Snapshot) :
    memberInsertion? note snapshot.tidied = memberInsertion? note snapshot := by
  funext member
  unfold memberInsertion?
  rw [MemberVerdict.of_tidied]

theorem schemaInstructions_tidied (note : String) (snapshot : Snapshot)
    (artifacts : Schema.Artifacts) :
    schemaInstructions note snapshot.tidied artifacts =
      schemaInstructions note snapshot artifacts := by
  unfold schemaInstructions
  rw [Snapshot.tidied_declarations, planConstants_tidied, memberInsertion?_tidied]

/-- Removals, constructors and interfaces are a matter of keys and names. -/
theorem parcelInstructions_tidied (snapshot : Snapshot) (artifacts : Parcel.Artifacts) :
    parcelInstructions snapshot.tidied artifacts = parcelInstructions snapshot artifacts := by
  have keeps : keepsConstructor snapshot.tidied artifacts = keepsConstructor snapshot artifacts := by
    unfold keepsConstructor
    rw [Snapshot.tidied, List.any_map]
    congr
    funext member
    cases member <;> rfl
  unfold parcelInstructions isSkipped
  rw [Snapshot.tidied_contains, Snapshot.tidied_implements, keeps]

theorem planClass_tidied (note : String) (set : ArtifactSet) (snapshot : Snapshot) :
    planClass note set snapshot.tidied = planClass note set snapshot := by
  unfold planClass
  simp only [schemaInstructions_tidied, parcelInstructions_tidied, Snapshot.tidied_declarations,
    planConstants_tidied]

end Members
end Merge

/-- The same member, with blanks elsewhere. -/
structure Member.Reformatted (member other : Member) : Prop where
  key : member.key = other.key
  text : Option.Rel (fun first second => Text.sameButBlanks first second = true)
    member.text? other.text?
  literal : Option.Rel (fun first second => Text.trim first = Text.trim second)
    member.literal? other.literal?

/-- The same class in another layout. -/
structure Snapshot.Reformatted (snapshot other : Snapshot) : Prop where
  members : List.Forall₂ Member.Reformatted snapshot.members other.members
  interfaces : snapshot.interfaces = other.interfaces

theorem map_eq_of_rel {α β : Type} {related : α → α → Prop} {f : α → β} {first second : Option α}
    (same : ∀ a b, related a b → f a = f b) (rel : Option.Rel related first second) :
    first.map f = second.map f := by
  cases rel with
  | none => rfl
  | some held => exact congrArg some (same _ _ held)

theorem Member.Reformatted.tidied_eq {member other : Member} (same : member.Reformatted other) :
    member.tidied = other.tidied := by
  obtain ⟨key, text, literal⟩ := same
  apply Member.eq_of_parts
  · rw [tidied_key, tidied_key, key]
  · rw [tidied_text?, tidied_text?]
    exact map_eq_of_rel (fun first second => (Text.bare_eq_iff first second).mpr) text
  · rw [tidied_literal?, tidied_literal?]
    exact map_eq_of_rel (fun _ _ trimmed => trimmed) literal

theorem Snapshot.Reformatted.tidied_eq {snapshot other : Snapshot}
    (same : snapshot.Reformatted other) : snapshot.tidied = other.tidied := by
  have related : List.Forall₂ (· = ·) (snapshot.members.map Member.tidied)
      (other.members.map Member.tidied) :=
    List.forall₂_map_left_iff.mpr (List.forall₂_map_right_iff.mpr
      (same.members.imp fun _ _ => Member.Reformatted.tidied_eq))
  rw [List.forall₂_eq_eq_eq] at related
  rw [tidied, tidied, related, same.interfaces]

namespace Merge

/-- Formatting a class anew changes no plan for it. -/
theorem plan_of_reformatted (note : String) (set : ArtifactSet) {snapshot other : Snapshot}
    (same : snapshot.Reformatted other) :
    planClass note set snapshot = planClass note set other := by
  calc planClass note set snapshot = planClass note set snapshot.tidied :=
        (planClass_tidied note set snapshot).symm
    _ = planClass note set other.tidied := by rw [same.tidied_eq]
    _ = planClass note set other := planClass_tidied note set other

/-- The table's constant and a creator, dense. -/
def dense : Snapshot :=
  ⟨[.field ⟨"TABLE", some "\"Point\"", some "String TABLE=\"Point\";"⟩,
    .method ⟨"Point", [JavaType.parcelName], some "Point(Parcel p)\x7b\x7d"⟩], []⟩

/-- The same over more lines. -/
def spread : Snapshot :=
  ⟨[.field ⟨"TABLE", some " \"Point\"\n", some "String TABLE =\n    \"Point\";\n"⟩,
    .method ⟨"Point", [JavaType.parcelName], some "Point(Parcel p)\n\x7b\n\x7d\n"⟩], []⟩

theorem plan_of_reformatted_point : dense.Reformatted spread ∧
    ∃ set, Toolchain.standard.generator.generate .point .all = .ok set ∧
      planClass Toolchain.standard.note set dense = planClass Toolchain.standard.note set spread := by
  have same : dense.Reformatted spread := by
    constructor
    · refine .cons ⟨rfl, .some ?_, .some ?_⟩ (.cons ⟨rfl, .some ?_, .none⟩ .nil)
      · decide
      · decide
      · decide
    · rfl
  obtain ⟨set, generated⟩ :=
    Generator.generate_ok DataClass.point_valid Toolchain.standard_resolves_point .all
  exact ⟨same, set, generated, plan_of_reformatted Toolchain.standard.note set same⟩

end Merge
end Boilerplate
