import Boilerplate.Proofs.Parcel.InStep
import Boilerplate.Proofs.Text.Locals

/-! The local variables of the constructor that reads a parcel. A date and an enumeration are staged in
a local that goes by the field's name with a capital. Names with one temporary have one constant too,
so the fields of an accepted class have temporaries of their own; the constructor is read back line by
line to see that each is declared once and fills its own field. -/
namespace Boilerplate

namespace Identifier
variable {name one other word : String}

theorem toList_temporary (name : String) :
    (temporary name).toList = "tmp".toList ++ temporaryChars name.toList := by
  rw [temporary, String.toList_append, String.toList_ofList (l := temporaryChars _)]

/-- The constant of a name depends on its temporary only. -/
theorem upperSnakeChars_congr {cs ds : List Char} (same : temporaryChars cs = temporaryChars ds) :
    upperSnakeChars cs = upperSnakeChars ds := by
  cases cs with
  | nil =>
    cases ds with
    | nil => rfl
    | cons => cases same
  | cons first rest =>
    cases ds with
    | nil => cases same
    | cons second more =>
      obtain ⟨capital, others⟩ := List.cons.inj same
      rw [upperSnakeChars, upperSnakeChars, capital, others]

theorem ofField_eq_of_temporary_eq (same : temporary one = temporary other) :
    ofField one = ofField other := by
  have chars := congrArg String.toList same
  rw [toList_temporary, toList_temporary] at chars
  rw [ofField, ofField, upperSnake, upperSnake, upperSnakeChars_congr (List.append_cancel_left chars)]

theorem temporary_ne (apart : "tmp".toList.isPrefixOf word.toList = false) (name : String) :
    temporary name ≠ word := by
  rintro rfl
  rw [toList_temporary, List.isPrefixOf_iff_prefix.mpr (List.prefix_append _ _)] at apart
  cases apart

theorem temporary_legal (part : IsWord name.toList) : Legal (temporary name) := by
  have chars : (temporary name).toList = 't' :: ('m' :: 'p' :: temporaryChars name.toList) :=
    toList_temporary name
  constructor
  · refine ⟨'t', _, chars, by decide, fun c member => isWord_temporary part c ?_⟩
    rw [chars]
    exact List.mem_cons_of_mem _ member
  · intro reserved
    have apart : ∀ word ∈ reservedWords, "tmp".toList.isPrefixOf word.toList = false := by decide
    exact temporary_ne (apart _ reserved) name rfl

end Identifier

theorem DataClass.temporaries_nodup {c : DataClass} (valid : c.validate = .ok ()) :
    (c.fields.map fun field => Identifier.temporary field.name).Nodup := by
  have constants := identifiers_nodup valid
  rw [identifiers, List.Nodup, List.pairwise_map] at constants
  rw [List.Nodup, List.pairwise_map]
  exact constants.imp fun differ same => differ (Identifier.ofField_eq_of_temporary_eq same)

namespace Parcel
open Text
open Java (isTypePart namesType readLocal readLocal_eq readLocal_eq_none)
open Identifier (IsWord EndsWord endsWord_cons isPart isLegal)

section Reading

/-- What a line of the constructor does with a local variable. -/
inductive Step where
  | declares (name : String)
  /-- Unless the local is -1, the field is filled with what the rest of the line says. -/
  | fills (field name rest : String)
deriving DecidableEq, Repr

def readFilling (line : String) : Option Step := do
  let (field, rest) := takeName (← after? "this." (String.ofList (skipBlanks line.toList)))
  let (name, rest) := takeName (← after? " = " rest)
  let rest ← after? " == -1 ? null : " rest
  return .fills field name rest

def readStep (line : String) : Option Step := (readLocal line).map .declares <|> readFilling line

def readSteps (text : String) : List Step := (lines text).filterMap readStep

def Step.declared? : Step → Option String
  | declares name => some name
  | fills _ _ _ => none

/-- The local variables that a text declares, one for each declaration. -/
def readLocals (text : String) : List String := (readSteps text).filterMap Step.declared?

end Reading

section Lines
variable {line type name field value rest : String}

theorem readLocal_declaration (number : type = "long" ∨ type = "int") (legal : isLegal name = true)
    (value : String) : readLocal ("    " ++ (type ++ (" " ++ (name ++ (" = " ++ value))))) = some name := by
  have start : skipBlanks ("    " ++ (type ++ (" " ++ (name ++ (" = " ++ value))))).toList =
      (type ++ (" " ++ (name ++ (" = " ++ value)))).toList := by
    rcases number with rfl | rfl <;> (rw [String.toList_append, String.toList_append]; rfl)
  have plain : "final ".toList.isPrefixOf? (type ++ (" " ++ (name ++ (" = " ++ value)))).toList = none := by
    rcases number with rfl | rfl <;> (rw [String.toList_append]; rfl)
  have typed : ∀ c ∈ type.toList, isTypePart c = true := by
    rcases number with rfl | rfl <;> exact List.all_eq_true.mp (by decide)
  have primitive : namesType type = true := by
    rcases number with rfl | rfl <;> rfl
  have ends : EndsWord (" = " ++ value).toList := by
    rw [String.toList_append]
    exact endsWord_cons rfl _
  rw [readLocal_eq start plain typed (Identifier.isWord_of_isLegal legal) ends, primitive, legal,
    after?_append, Option.isSome_some, Bool.or_true]
  rfl

theorem readLocal_assignment (word : IsWord field.toList) (value : String) :
    readLocal ("    this." ++ (field ++ (" = " ++ value))) = none := by
  have line : "    this." ++ (field ++ (" = " ++ value)) =
      "    " ++ ("this." ++ (field ++ (" " ++ ("" ++ ("= " ++ value))))) := by
    apply String.toList_injective
    simp
  have qualified : "this." ++ (field ++ (" " ++ ("" ++ ("= " ++ value)))) =
      "this." ++ field ++ (" " ++ ("" ++ ("= " ++ value))) := by
    rw [String.append_assoc]
  have plain : "final ".toList.isPrefixOf?
      ("this." ++ (field ++ (" " ++ ("" ++ ("= " ++ value))))).toList = none := by
    rw [String.toList_append]
    rfl
  have start : skipBlanks ("    " ++ ("this." ++ (field ++ (" " ++ ("" ++ ("= " ++ value)))))).toList =
      ("this." ++ (field ++ (" " ++ ("" ++ ("= " ++ value))))).toList := by
    rw [String.toList_append, String.toList_append]
    rfl
  have typed : ∀ c ∈ ("this." ++ field).toList, isTypePart c = true := by
    rw [String.toList_append]
    refine List.forall_mem_append.mpr ⟨List.all_eq_true.mp (by decide), fun c member => ?_⟩
    simp [isTypePart, word c member]
  have ends : EndsWord ("= " ++ value).toList := by
    rw [String.toList_append]
    exact endsWord_cons rfl _
  have unnamed : isLegal "" = false := rfl
  rw [qualified] at start plain
  rw [line, qualified, readLocal_eq start plain typed (by simp [Identifier.IsWord]) ends, unnamed,
    Bool.and_false, Bool.false_and]
  rfl

/-- A call on the parcel declares nothing. -/
theorem readLocal_call (word : IsWord name.toList) (rest : String) :
    readLocal ("    in." ++ (name ++ ("(" ++ rest))) = none := by
  have start : skipBlanks ("    in." ++ (name ++ ("(" ++ rest))).toList =
      "in.".toList ++ name.toList ++ ([] ++ '(' :: rest.toList) := by
    rw [String.toList_append, String.toList_append, String.toList_append]
    rfl
  have typed : ∀ c ∈ "in.".toList ++ name.toList, isTypePart c = true := by
    refine List.forall_mem_append.mpr ⟨List.all_eq_true.mp (by decide), fun c member => ?_⟩
    simp [isTypePart, word c member]
  exact readLocal_eq_none start (.inl rfl) typed rfl

/-- A field may be filled from a local when a name stands after the equality sign. -/
theorem readFilling_assignment (word : IsWord field.toList) (opening : IsWord name.toList)
    (ends : EndsWord rest.toList) :
    readFilling ("    this." ++ (field ++ (" = " ++ (name ++ rest)))) =
      (after? " == -1 ? null : " rest).map (Step.fills field name) := by
  have line : String.ofList (skipBlanks ("    this." ++ (field ++ (" = " ++ (name ++ rest)))).toList) =
      "this." ++ (field ++ (" = " ++ (name ++ rest))) := by
    have own : ("this." ++ (field ++ (" = " ++ (name ++ rest)))).toList =
        "this.".toList ++ (field ++ (" = " ++ (name ++ rest))).toList := String.toList_append
    apply String.toList_injective
    rw [String.toList_ofList (l := skipBlanks _), String.toList_append, own]
    rfl
  have stop : EndsWord (" = " ++ (name ++ rest)).toList := by
    rw [String.toList_append]
    exact endsWord_cons rfl _
  rw [readFilling, line, after?_append]
  simp only [Option.bind_eq_bind, Option.bind_some, takeName_append word _ stop, after?_append,
    takeName_append opening _ ends]
  cases after? " == -1 ? null : " rest <;> rfl

end Lines

section Statements
variable {field name : String} {value : Expr}

/-- What a statement does with a local variable, as it is read from its line. -/
def Statement.step? (statement : Statement) : Option Step := readStep ("    " ++ statement.text)

theorem step?_declare {type : String} (number : type = "long" ∨ type = "int") (legal : isLegal name = true)
    (value : Expr) : (Statement.declare type name value).step? = some (.declares name) := by
  have text : "    " ++ (Statement.declare type name value).text =
      "    " ++ (type ++ (" " ++ (name ++ (" = " ++ (value.text ++ ";"))))) := by
    simp only [Statement.text, String.append_assoc]
  rw [Statement.step?, readStep, text, readLocal_declaration number legal]
  rfl

theorem step?_run (word : IsWord name.toList) (arguments : List Expr) :
    (Statement.run (.call (.word "in") name arguments)).step? = none := by
  have text : "    " ++ (Statement.run (.call (.word "in") name arguments)).text =
      "    in." ++ (name ++ ("(" ++ (Expr.argumentText arguments ++ (")" ++ ";")))) := by
    apply String.toList_injective
    simp [Statement.text, Expr.text]
  have call : readLocal ("    in." ++ (name ++ ("(" ++ (Expr.argumentText arguments ++ (")" ++ ";"))))) =
      none := readLocal_call word _
  have other : readFilling ("    in." ++ (name ++ ("(" ++ (Expr.argumentText arguments ++ (")" ++ ";"))))) =
      none := by
    have apart : after? "this." (String.ofList (skipBlanks
        ("    in." ++ (name ++ ("(" ++ (Expr.argumentText arguments ++ (")" ++ ";"))))).toList)) = none := by
      rw [after?, String.toList_ofList (l := skipBlanks _), String.toList_append]
      rfl
    rw [readFilling, apart]
    rfl
  rw [Statement.step?, readStep, text, call, other]
  rfl

/-- An assignment whose value begins with that name. -/
theorem step?_assign {rest : String} (word : IsWord field.toList) (opening : IsWord name.toList)
    (ends : EndsWord rest.toList) (text : value.text ++ ";" = name ++ rest) :
    (Statement.assign field value).step? = (after? " == -1 ? null : " rest).map (Step.fills field name) := by
  have line : "    " ++ (Statement.assign field value).text =
      "    this." ++ (field ++ (" = " ++ (name ++ rest))) := by
    rw [← text]
    apply String.toList_injective
    simp [Statement.text]
  rw [Statement.step?, readStep, line, readLocal_assignment word, readFilling_assignment word opening ends]
  rfl

/-- Nothing is filled from a local when the value begins with another name. -/
theorem step?_assign_none {rest : String} (word : IsWord field.toList) (opening : IsWord name.toList)
    (ends : EndsWord rest.toList) (text : value.text ++ ";" = name ++ rest)
    (other : " == -1 ? null : ".toList.isPrefixOf? rest.toList = none) :
    (Statement.assign field value).step? = none := by
  rw [step?_assign word opening ends text, after?, other]
  rfl

end Statements

namespace Transfer
variable {transfer : Transfer} {field : Field}

/-- What the read of a field does with its temporary. -/
def steps (transfer : Transfer) (field : Field) : List Step :=
  let name := Identifier.temporary field.name
  match transfer with
  | epoch => [.declares name, .fills field.name name ("new java.util.Date(" ++ (name ++ ");"))]
  | ordinal enumeration =>
    [.declares name, .fills field.name name (enumeration ++ (".values()[" ++ (name ++ "];")))]
  | _ => []

/-- A value that the parcel gives, as it is or cast. -/
theorem step?_take (word : IsWord field.name.toList) (method : String) (arguments : List Expr) :
    (Statement.assign field.name (take method arguments)).step? = none := by
  have text : (take method arguments).text ++ ";" =
      "in" ++ ("." ++ (method ++ ("(" ++ (Expr.argumentText arguments ++ (")" ++ ";"))))) := by
    apply String.toList_injective
    simp [take, source, Expr.text]
  refine step?_assign_none word (List.all_eq_true.mp (by decide)) ?_ text ?_
  · rw [String.toList_append]
    exact endsWord_cons rfl _
  · rw [String.toList_append]
    rfl

theorem step?_cast (word : IsWord field.name.toList) (type : String) (value : Expr) :
    (Statement.assign field.name (.cast type value)).step? = none := by
  have text : (Expr.cast type value).text ++ ";" = "" ++ ("(" ++ (type ++ (") " ++ (value.text ++ ";")))) := by
    apply String.toList_injective
    simp [Expr.text]
  refine step?_assign_none word (by simp [IsWord]) ?_ text ?_
  · rw [String.toList_append]
    exact endsWord_cons rfl _
  · rw [String.toList_append]
    rfl

theorem step?_flag (word : IsWord field.name.toList) :
    (Statement.assign field.name (.unequal (take "readByte" []) (.word "0"))).step? = none := by
  have text : (Expr.unequal (take "readByte" []) (.word "0")).text ++ ";" = "in" ++ ".readByte() != 0;" := rfl
  have ends : EndsWord ".readByte() != 0;".toList := endsWord_cons rfl _
  exact step?_assign_none word (List.all_eq_true.mp (by decide)) ends text rfl

theorem step?_readInto (word : IsWord field.name.toList) {front : String}
    (package : front = "java.util.HashMap<" ∨ front = "java.util.ArrayList<")
    {method : String} (called : IsWord method.toList) (arguments filler : String) :
    (readInto field.name (front ++ arguments) method filler).filterMap Statement.step? = [] := by
  have text : (Expr.new (front ++ arguments) []).text ++ ";" =
      "new" ++ ((" " ++ front) ++ (arguments ++ "();")) := by
    apply String.toList_injective
    simp [Expr.text, Expr.argumentText]
  have made : (Statement.assign field.name (.new (front ++ arguments) [])).step? = none := by
    refine step?_assign_none word (List.all_eq_true.mp (by decide)) ?_ text ?_
    · rcases package with rfl | rfl <;> (rw [String.toList_append]; exact endsWord_cons rfl _)
    · rcases package with rfl | rfl <;> (rw [String.toList_append]; rfl)
  rw [readInto, List.filterMap_cons_none made, take, source, List.filterMap_cons_none (step?_run called _),
    List.filterMap_nil]

/-- A temporary is declared, and the field is filled from it. -/
theorem step?_readThrough (legal : isLegal field.name = true) {number : String}
    (type : number = "long" ∨ number = "int") (method : String) (value : Expr → Expr) :
    (readThrough field.name number method value).filterMap Statement.step? =
      [.declares (Identifier.temporary field.name), .fills field.name (Identifier.temporary field.name)
        ((value (.word (Identifier.temporary field.name))).text ++ ";")] := by
  have word := Identifier.isWord_of_isLegal legal
  have temporary := Identifier.temporary_legal word
  have text : (Expr.choose (.equal (.word (Identifier.temporary field.name)) (.word "-1")) (.word "null")
      (value (.word (Identifier.temporary field.name)))).text ++ ";" = Identifier.temporary field.name ++
        (" == -1 ? null : " ++ ((value (.word (Identifier.temporary field.name))).text ++ ";")) := by
    apply String.toList_injective
    simp [Expr.text]
  have ends : EndsWord (" == -1 ? null : " ++
      ((value (.word (Identifier.temporary field.name))).text ++ ";")).toList := by
    rw [String.toList_append]
    exact endsWord_cons rfl _
  have declared := step?_declare type (Identifier.isLegal_iff.mpr temporary) (take method [])
  have filled := step?_assign word temporary.isWord ends text
  rw [after?_append, Option.map_some] at filled
  rw [readThrough, List.filterMap_cons_some declared, List.filterMap_cons_some filled, List.filterMap_nil]

theorem read_steps (known : transfer.Known) (legal : isLegal field.name = true) :
    (transfer.read field).filterMap Statement.step? = transfer.steps field := by
  have word := Identifier.isWord_of_isLegal legal
  cases transfer with
  | epoch =>
    have date (name : String) : (Expr.new JavaType.dateName [.word name]).text ++ ";" =
        "new java.util.Date(" ++ (name ++ ");") := by
      apply String.toList_injective
      simp [Expr.text, Expr.argumentText, JavaType.dateName]
    rw [read, step?_readThrough legal (.inl rfl), date]
    rfl
  | ordinal enumeration =>
    have item (name : String) : (Expr.item (.call (.word enumeration) "values" []) (.word name)).text ++ ";" =
        enumeration ++ (".values()[" ++ (name ++ "];")) := by
      apply String.toList_injective
      simp [Expr.text, Expr.argumentText]
    rw [read, step?_readThrough legal (.inr rfl), item]
    rfl
  | map key value =>
    rw [read, String.append_assoc, String.append_assoc, String.append_assoc]
    exact step?_readInto word (.inl rfl) (List.all_eq_true.mp (by decide)) _ _
  | list element =>
    rw [read, String.append_assoc]
    exact step?_readInto word (.inr rfl) (List.all_eq_true.mp (by decide)) _ _
  | flag => exact List.filterMap_cons_none (step?_flag word)
  | widened type => exact List.filterMap_cons_none (step?_cast word _ _)
  | boxed type => exact List.filterMap_cons_none (step?_cast word _ _)
  | serializable type => exact List.filterMap_cons_none (step?_cast word _ _)
  | _ => exact List.filterMap_cons_none (step?_take word _ _)

end Transfer

namespace ResolvedField
variable {f : ResolvedField}

/-- Dates and enumerations are staged in a local. -/
def IsStaged (f : ResolvedField) : Prop := f.resolved.strategy = .date ∨ f.resolved.strategy = .enumeration

instance : DecidablePred IsStaged := fun _ => inferInstanceAs (Decidable (_ ∨ _))

def temporary (f : ResolvedField) : String := Identifier.temporary f.field.name

def steps (f : ResolvedField) : List Step := f.resolved.transfer.steps f.field

theorem steps_declared (f : ResolvedField) :
    f.steps.filterMap Step.declared? = if f.IsStaged then [f.temporary] else [] := by
  have plain {transfer : Transfer} (none : transfer.steps f.field = []) :
      (transfer.steps f.field).filterMap Step.declared? = [] := by rw [none, List.filterMap_nil]
  obtain ⟨field, strategy, type⟩ := f
  rw [steps, Resolved.transfer]
  cases strategy with
  | mapContainer =>
    rw [Strategy.transfer]
    split <;> rfl
  | primitive =>
    rw [Strategy.transfer]
    cases found : Strategy.primitiveTransfer? type with
    | none => rfl
    | some result =>
      rcases Strategy.primitiveTransfer?_cases found with ⟨_, _, rfl⟩ | rfl | ⟨_, rfl⟩ | rfl <;> rfl
  | _ => rfl

theorem flatMap_steps_declared (fields : List ResolvedField) :
    (fields.flatMap steps).filterMap Step.declared? = (fields.filter (·.IsStaged)).map temporary := by
  induction fields with
  | nil => rfl
  | cons first more ih =>
    rw [List.flatMap_cons, List.filterMap_append, steps_declared, ih, List.filter_cons]
    by_cases staged : first.IsStaged <;> simp [staged]

end ResolvedField

section Constructor
variable {className : String} {fields : List ResolvedField}

theorem readStep_header (word : IsWord className.toList) :
    readStep ("private " ++ (className ++ "(android.os.Parcel in) \x7b")) = none := by
  have start : skipBlanks ("private " ++ (className ++ "(android.os.Parcel in) \x7b")).toList =
      ("private" ++ (" " ++ (className ++ "(android.os.Parcel in) \x7b"))).toList := by
    rw [show "private " = "private" ++ " " from rfl, String.append_assoc, String.toList_append]
    rfl
  have plain : "final ".toList.isPrefixOf?
      ("private" ++ (" " ++ (className ++ "(android.os.Parcel in) \x7b"))).toList = none := by
    rw [String.toList_append]
    rfl
  have reserved : namesType "private" = false := by decide
  have other : after? "this." (String.ofList (skipBlanks
      ("private " ++ (className ++ "(android.os.Parcel in) \x7b")).toList)) = none := by
    rw [after?, String.toList_ofList (l := skipBlanks _), String.toList_append]
    rfl
  rw [readStep, readLocal_eq start plain (List.all_eq_true.mp (by decide)) word (endsWord_cons rfl _),
    reserved, readFilling, other]
  rfl

theorem lines_parcelConstructor (word : IsWord className.toList)
    (silent : ∀ statement ∈ readStatements fields, ∀ name ∈ statement.names, Silent name) :
    lines (parcelConstructor className fields) =
      ("private " ++ (className ++ "(android.os.Parcel in) \x7b")) ::
        ((readStatements fields).map (fun statement => "    " ++ statement.text) ++ ["\x7d", ""]) := by
  have split : parcelConstructor className fields =
      ("private " ++ (className ++ "(android.os.Parcel in) \x7b")) ++ ("\n" ++
        (unlines ((readStatements fields).map fun statement => "    " ++ statement.text) ++ "\x7d\n")) := by
    have text : body (readStatements fields) =
        unlines ((readStatements fields).map fun statement => "    " ++ statement.text) := by
      rw [body, unlines, List.map_map]
      rfl
    rw [parcelConstructor, text]
    apply String.toList_injective
    simp
  have header : OneLine ("private " ++ (className ++ "(android.os.Parcel in) \x7b")) :=
    oneLine_append_iff.mpr ⟨by decide, oneLine_append_iff.mpr ⟨oneLine_of_isWord word, by decide⟩⟩
  have each : ∀ line ∈ (readStatements fields).map (fun statement => "    " ++ statement.text),
      OneLine line := by
    intro line member
    obtain ⟨statement, among, rfl⟩ := List.mem_map.mp member
    exact oneLine_append_iff.mpr ⟨by decide, statement_oneLine statement (silent statement among)⟩
  have last : lines "\x7d\n" = ["\x7d", ""] := by decide
  rw [split, lines_append, lines_of_oneLine header, lines_unlines_append each, last]
  rfl

theorem readSteps_parcelConstructor (word : IsWord className.toList)
    (inStep : ∀ f ∈ fields, f.InStep)
    (each : ∀ f ∈ fields, f.read.filterMap Statement.step? = f.steps) :
    readSteps (parcelConstructor className fields) = fields.flatMap ResolvedField.steps := by
  have silent : ∀ statement ∈ readStatements fields, ∀ name ∈ statement.names, Silent name := by
    intro statement member
    obtain ⟨f, among, own⟩ := List.mem_flatMap.mp member
    exact (inStep f among).silent statement (List.mem_cons_of_mem _ own)
  have last : ["\x7d", ""].filterMap readStep = [] := by decide
  rw [readSteps, lines_parcelConstructor word silent, List.filterMap_cons_none (readStep_header word),
    List.filterMap_append, last, List.append_nil, List.filterMap_map, readStatements,
    List.filterMap_flatMap]
  exact List.flatMap_congr each

end Constructor
end Parcel

/-- A class with a date and an enumeration. -/
def DataClass.event : DataClass :=
  ⟨"Event", [⟨"created", "java.util.Date", false⟩, ⟨"count", "int", false⟩, ⟨"kind", "Kind", false⟩], false⟩

namespace Generator
open Parcel

/-- The temporaries of an accepted class are legal and all different. In the constructor that reads a
parcel, the locals are the temporaries of the dates and enumerations; each is declared once and its own
field is filled from it. -/
theorem temporaries_apart {c : DataClass} (valid : c.validate = .ok ()) :
    (c.fields.map fun field => Identifier.temporary field.name).Nodup ∧
    (∀ field ∈ c.fields, Identifier.isLegal (Identifier.temporary field.name) = true ∧
      Identifier.temporary field.name ≠ Transfer.source) ∧
    ∀ (g : Generator) (artifacts : Artifacts), g.parcelableArtifacts c = .ok artifacts →
      ∃ fields : List ResolvedField, fields.map ResolvedField.field = c.fields ∧
        (∀ f ∈ fields, g.resolver.resolveField f.field = .ok f.resolved) ∧
        readSteps artifacts.parcelConstructor = fields.flatMap ResolvedField.steps ∧
        readLocals artifacts.parcelConstructor =
          (fields.filter (·.IsStaged)).map ResolvedField.temporary ∧
        (readLocals artifacts.parcelConstructor).Nodup := by
  have named := DataClass.isLegal_field valid
  have different := DataClass.temporaries_nodup valid
  refine ⟨different, fun field declared => ⟨?_, ?_⟩, fun g artifacts made => ?_⟩
  · exact Identifier.isLegal_iff.mpr
      (Identifier.temporary_legal (Identifier.isWord_of_isLegal (named field declared)))
  · exact Identifier.temporary_ne (by decide) field.name
  · obtain ⟨_, rfl⟩ := parcelableArtifacts_sound made
    have all := resolvedFields_fields (failures_of_parcelableArtifacts made)
    have each : ∀ f ∈ g.resolvedFields c, f.InStep ∧ f.read.filterMap Statement.step? = f.steps := by
      intro f member
      obtain ⟨declared, success⟩ := resolveField_of_mem member
      have claimed := Resolver.claims_of_resolveField success
      have legal := named f.field declared
      exact ⟨inStep_of_claims (Field.type_legal (Resolver.resolveField_eq_ok_iff.mp success).1) claimed
        (Identifier.isWord_of_isLegal legal), Transfer.read_steps (Strategy.transfer_known claimed) legal⟩
    have steps : readSteps (parcelConstructor c.name (g.resolvedFields c)) =
        (g.resolvedFields c).flatMap ResolvedField.steps :=
      readSteps_parcelConstructor (Identifier.isWord_of_isLegal (DataClass.isLegal_name valid)) (fun f member => (each f member).1)
        fun f member => (each f member).2
    have locals : readLocals (parcelConstructor c.name (g.resolvedFields c)) =
        ((g.resolvedFields c).filter (·.IsStaged)).map ResolvedField.temporary := by
      rw [readLocals, steps, ResolvedField.flatMap_steps_declared]
    refine ⟨g.resolvedFields c, all, fun f member => (resolveField_of_mem member).2, steps, locals, ?_⟩
    have whole : ((g.resolvedFields c).map ResolvedField.temporary).Nodup := by
      rw [← all, List.map_map] at different
      exact different
    rw [Parcel.artifacts, locals]
    exact (List.filter_sublist.map _).nodup whole

theorem temporaries_apart_event : DataClass.event.validate = .ok () ∧
    (DataClass.event.fields.map fun field => Identifier.temporary field.name).Nodup ∧
    (∀ field ∈ DataClass.event.fields, Identifier.isLegal (Identifier.temporary field.name) = true ∧
      Identifier.temporary field.name ≠ Transfer.source) ∧
    ∃ artifacts, (ofEnumeration "Kind").parcelableArtifacts .event = .ok artifacts ∧
      ∃ fields : List ResolvedField, fields.map ResolvedField.field = DataClass.event.fields ∧
        (∀ f ∈ fields, (ofEnumeration "Kind").resolver.resolveField f.field = .ok f.resolved) ∧
        readSteps artifacts.parcelConstructor = fields.flatMap ResolvedField.steps ∧
        readLocals artifacts.parcelConstructor =
          (fields.filter (·.IsStaged)).map ResolvedField.temporary ∧
        (readLocals artifacts.parcelConstructor).Nodup := by
  have valid : DataClass.event.validate = .ok () := by rfl
  have made : (ofEnumeration "Kind").parcelableArtifacts .event =
      .ok (Parcel.artifacts .event ((ofEnumeration "Kind").resolvedFields .event)) := by rfl
  obtain ⟨different, legal, each⟩ := temporaries_apart valid
  exact ⟨valid, different, legal, _, made, each (ofEnumeration "Kind") _ made⟩

end Generator
end Boilerplate
