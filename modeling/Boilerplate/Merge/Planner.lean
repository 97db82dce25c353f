import Boilerplate.Generator
import Boilerplate.Merge.Plan

/-! Planning how generated members join a class. A declaration that the class already has is never
changed: one that differs gets an annotated copy beside it. Only the members that make a class
Parcelable are replaced. -/
namespace Boilerplate.Merge
open Log
open Schema (MemberText)

/-- What a class says about a generated constant. -/
inductive Verdict where
  | missing
  /-- That occurrence of the identifier holds the value. -/
  | held (occurrence : Nat)
  /-- The identifier is declared, first as given, but nowhere with the value. -/
  | differing (first : Declaration)
deriving DecidableEq, Repr

namespace Verdict

def of (existing : List Declaration) (constant : Constant) : Verdict :=
  let same := existing.filter fun declaration => declaration.identifier == constant.identifier
  match same with
  | [] => missing
  | first :: _ =>
    match same.findIdx? fun declaration => declaration.literal.any constant.matchesLiteral with
    | some occurrence => held occurrence
    | none => differing first

def decision : Verdict → Decision
  | missing => .insert
  | held _ => .unchanged
  | differing _ => .conflicting

end Verdict

/-- The insertions for constants. A missing constant follows the declaration processed before it,
or goes to the end of the class when there is none. -/
def constantInsertions (note : String) (existing : List Declaration) :
    Option Anchor → Nat → List Constant → List Insertion
  | _, _, [] => []
  | processed, index, constant :: more =>
    let key := MemberKey.field constant.identifier
    match Verdict.of existing constant with
    | .missing =>
      ⟨processed.getD .endOfClass, key, constant.declaration, some constant.literal, false⟩ ::
        constantInsertions note existing (some (.afterPlanned index)) (index + 1) more
    | .held occurrence =>
      constantInsertions note existing (some (.afterExisting key occurrence)) index more
    | .differing _ =>
      let annotated := constant.annotate note
      ⟨.afterExisting key 0, key, annotated.declaration, some annotated.literal, true⟩ ::
        constantInsertions note existing (some (.afterPlanned index)) (index + 1) more

def constantDecision (existing : List Declaration) (constant : Constant) : ConstantDecision :=
  ⟨constant.identifier, (Verdict.of existing constant).decision⟩

def planConstants (note : String) (constants : List Constant) (existing : List Declaration) :
    ConstantPlan :=
  ⟨constantInsertions note existing none 0 constants, constants.map (constantDecision existing)⟩

/-- What a class says about a generated member that is no constant. -/
inductive MemberVerdict where
  | missing
  | present
  | differing
deriving DecidableEq, Repr

/-- The text with the note in front. -/
def annotated (note text : String) : String := "//" ++ note ++ "\n" ++ text

/-- An existing text is the generated one, annotated or not, up to blanks. -/
def isGeneratedText (note text existing : String) : Bool :=
  Text.sameButBlanks existing text || Text.sameButBlanks existing (annotated note text)

def MemberVerdict.of (note : String) (snapshot : Snapshot) (member : MemberText) : MemberVerdict :=
  let same := snapshot.members.filter fun existing => existing.key == member.key
  if same.isEmpty then missing
  else if same.any fun existing => existing.text?.any (isGeneratedText note member.text) then
    present
  else differing

def memberInsertion? (note : String) (snapshot : Snapshot) (member : MemberText) :
    Option Insertion :=
  match MemberVerdict.of note snapshot member with
  | .missing => some ⟨.endOfClass, member.key, member.text, none, false⟩
  | .present => none
  | .differing =>
    some ⟨.afterExisting member.key 0, member.key, annotated note member.text, none, true⟩

def schemaInstructions (note : String) (snapshot : Snapshot) (artifacts : Schema.Artifacts) :
    List Instruction :=
  (planConstants note artifacts.constants snapshot.declarations).insertions.map .insert ++
    (artifacts.members.filterMap (memberInsertion? note snapshot)).map .insert

/-- A constructor that will not be removed. -/
def keepsConstructor (snapshot : Snapshot) (artifacts : Parcel.Artifacts) : Bool :=
  snapshot.members.any fun
    | .method m =>
      m.name == artifacts.className &&
        !artifacts.replacedMembers.contains (.method m.name m.parameters)
    | .field _ => false

/-- A default constructor gives way to a constructor that stays. -/
def isSkipped (snapshot : Snapshot) (artifacts : Parcel.Artifacts) (member : MemberText) : Bool :=
  keepsConstructor snapshot artifacts &&
    member.key == Parcel.defaultConstructorKey artifacts.className

def parcelInstructions (snapshot : Snapshot) (artifacts : Parcel.Artifacts) : List Instruction :=
  (artifacts.replacedMembers.filter snapshot.contains).map .remove ++
    ((artifacts.members.filter fun member => !isSkipped snapshot artifacts member).map
      fun member => .insert ⟨.endOfClass, member.key, member.text, none, false⟩) ++
    (if snapshot.implements JavaType.parcelableName then []
      else [.implementInterface JavaType.parcelableName])

/-- The plan for one class: constants, schema members, removals, Parcelable members and last the
interface. -/
def planClass (note : String) (set : ArtifactSet) (snapshot : Snapshot) : EditPlan where
  instructions :=
    (match set.schema with
      | some artifacts => schemaInstructions note snapshot artifacts
      | none => []) ++
    (match set.parcelable with
      | some artifacts => parcelInstructions snapshot artifacts
      | none => [])
  decisions :=
    match set.schema with
    | some artifacts => (planConstants note artifacts.constants snapshot.declarations).decisions
    | none => []

def constantEvents (existing : List Declaration) (constant : Constant) : List Event :=
  let verdict := Verdict.of existing constant
  (match verdict with
    | .differing first =>
      [⟨.warn, .mergePlanner, "conflicting declaration; inserting annotated copy",
        [("identifier", .plain constant.identifier),
         ("existing", .quoted (first.literal.getD "<non-literal>")),
         ("generated", .plain constant.literal)]⟩]
    | _ => []) ++
    [⟨.debug, .mergePlanner, "merge decision",
      [("identifier", .plain constant.identifier),
       ("decision", .quoted verdict.decision.title)]⟩]

def planConstantsEvents (constants : List Constant) (existing : List Declaration) : List Event :=
  constants.flatMap (constantEvents existing)

def memberEvent (note : String) (snapshot : Snapshot) (member : MemberText) : Event :=
  let fields := [("member", FieldValue.plain member.key.shown)]
  match MemberVerdict.of note snapshot member with
  | .missing => ⟨.debug, .mergePlanner, "member missing; appending", fields⟩
  | .present => ⟨.debug, .mergePlanner, "member unchanged", fields⟩
  | .differing => ⟨.warn, .mergePlanner, "member differs; inserting annotated copy", fields⟩

def schemaEvents (note : String) (snapshot : Snapshot) (artifacts : Schema.Artifacts) :
    List Event :=
  planConstantsEvents artifacts.constants snapshot.declarations ++
    artifacts.members.map (memberEvent note snapshot)

def parcelEvents (snapshot : Snapshot) (artifacts : Parcel.Artifacts) : List Event :=
  ((artifacts.replacedMembers.filter snapshot.contains).map fun key =>
    ⟨.debug, .mergePlanner, "replacing existing parcelable member",
      [("member", .plain key.shown)]⟩) ++
  ((artifacts.members.filter (isSkipped snapshot artifacts)).map fun member =>
    ⟨.debug, .mergePlanner, "class declares a constructor; skipping default",
      [("member", .plain member.key.shown)]⟩)

def planClassEvents (note : String) (set : ArtifactSet) (snapshot : Snapshot) : List Event :=
  let plan := planClass note set snapshot
  (match set.schema with
    | some artifacts => schemaEvents note snapshot artifacts
    | none => []) ++
  (match set.parcelable with
    | some artifacts => parcelEvents snapshot artifacts
    | none => []) ++
  [⟨.info, .mergePlanner, "planned class edits",
    [("instructions", .count plan.instructions.length),
     ("insertions", .count plan.insertions.length), ("conflicts", .count plan.conflicts)]⟩]

end Boilerplate.Merge
