import Boilerplate.Document.ClassDocument
import Boilerplate.Document.SettingsDocument
import Boilerplate.Document.Storage
import Boilerplate.Proofs.Document.JsonRoundTrip

/-! Structures and their documents. A document that was made from a structure can be written whole,
and the structure is read from it again. -/
namespace Boilerplate

namespace Document
open Json (Writable)

section Readable

theorem areReadable_iff {items : List Document} :
    areReadable items = true ↔ ∀ item ∈ items, item.isReadable = true := by
  induction items with
  | nil => simp [areReadable]
  | cons item more ih => simp [areReadable, ih]

theorem haveReadableValues_iff {entries : List (String × Document)} :
    haveReadableValues entries = true ↔ ∀ entry ∈ entries, entry.2.isReadable = true := by
  induction entries with
  | nil => simp [haveReadableValues]
  | cons entry more ih => simp [haveReadableValues, ih]

theorem isReadable_of_writable (writable : Writable room document) : document.isReadable = true := by
  induction writable with
  | null | bool | natural | text => rfl
  | list _ ih => exact areReadable_iff.mpr ih
  | record _ ih => exact haveReadableValues_iff.mpr ih

end Readable

section Columns

theorem mapM_map {α β : Type} {write : α → β} {read : β → Option α} {values : List α}
    (each : ∀ value ∈ values, read (write value) = some value) :
    (values.map write).mapM read = some values := by
  induction values with
  | nil => rfl
  | cons value more ih =>
    have own := each value List.mem_cons_self
    have later := ih fun other member => each other (List.mem_cons_of_mem _ member)
    rw [List.map_cons, List.mapM_cons, own, later]
    rfl

theorem asList?_list {α : Type} {write : α → Document} {read : Document → Option α} {values : List α}
    (each : ∀ value ∈ values, read (write value) = some value) :
    asList? read (list (values.map write)) = some values :=
  mapM_map each

theorem asTexts?_ofTexts (texts : List String) : asTexts? (ofTexts texts) = some texts :=
  asList?_list fun _ _ => rfl

theorem asIndex?_natural (small : n < Nat.pow 2 64) : asIndex? (natural n) = some n := if_pos small

/-- The tag of a record is its first entry and no other. -/
theorem variant?_record {tag kind : String} {kinds : List String} {entries : List (String × Document)}
    (known : kinds.contains kind = true) (others : ∀ entry ∈ entries, entry.1 ≠ tag)
    (readable : (record ((tag, .text kind) :: entries)).isReadable = true) (isInner : Bool) :
    (record ((tag, .text kind) :: entries)).variant? tag kinds isInner =
      some (kind, record entries) := by
  have tags : ((tag, .text kind) :: entries).filter (fun entry => entry.1 == tag) =
      [(tag, .text kind)] := by
    rw [List.filter_cons_of_pos (by simp),
      List.filter_eq_nil_iff.mpr fun entry member => by simpa using others entry member]
  have rest : ((tag, Document.text kind) :: entries).filter (fun entry => entry.1 != tag) = entries := by
    rw [List.filter_cons_of_neg (by simp)]
    exact List.filter_eq_self.mpr fun entry member => by simpa using others entry member
  have content : (record entries).isReadable = true := readable
  unfold variant? tagged?
  simp only [tags, rest, Option.bind_eq_bind, Option.bind_some, content, known]
  rfl

end Columns

section Writing

theorem writable_list {α : Type} {write : α → Document} {values : List α}
    (each : ∀ value ∈ values, Writable room (write value)) :
    Writable (room + 1) (list (values.map write)) :=
  .list fun _ member => by
    obtain ⟨value, among, rfl⟩ := List.mem_map.mp member
    exact each value among

theorem writable_ofTexts (texts : List String) : Writable (room + 1) (ofTexts texts) :=
  writable_list fun _ _ => .text

/-- An index of 64 bits has far fewer digits than a number may have. -/
theorem writable_natural (small : n < Nat.pow 2 64) : Writable room (natural n) := by
  refine .natural ?_
  have digits : (Nat.toDigits 10 n).length ≤ 20 :=
    (Nat.length_toDigits_le_iff (by decide) (by decide)).mpr (Nat.lt_trans small (by decide))
  omega

theorem writable_tagged (writable : Writable (room + 1) (record entries)) :
    Writable (room + 1) (record ((tag, .text kind) :: entries)) := by
  cases writable with
  | record each => exact .record (List.forall_mem_cons.mpr ⟨.text, each⟩)

theorem forall_entryOf {α : Type} {write : α → Document} {value : Option α}
    {P : String × Document → Prop} (each : ∀ a, P (key, write a)) :
    ∀ entry ∈ entryOf key write value, P entry := by
  cases value with
  | none => simp [entryOf]
  | some a => simpa [entryOf] using each a

end Writing
end Document

open Document
open Json (Writable)

section Classes

theorem Field.writable (field : Field) : Writable (room + 1) field.toDocument :=
  .record (by simp [Writable.text, Writable.bool])

theorem Field.ofDocument?_toDocument (field : Field) : ofDocument? field.toDocument = some field := rfl

theorem DataClass.writable (c : DataClass) : Writable (room + 3) c.toDocument := by
  have fields : Writable (room + 2) (list (c.fields.map Field.toDocument)) :=
    writable_list fun field _ => field.writable
  exact .record (by simp [Writable.text, Writable.bool, fields])

theorem DataClass.ofDocument?_toDocument (c : DataClass) : ofDocument? c.toDocument = some c := by
  have fields : asList? Field.ofDocument? (list (c.fields.map Field.toDocument)) = some c.fields :=
    asList?_list fun field _ => field.ofDocument?_toDocument
  change (do
    let fields ← asList? Field.ofDocument? (list (c.fields.map Field.toDocument))
    return (⟨c.name, fields, c.hasExistingConstructor⟩ : DataClass)) = some c
  rw [fields]
  rfl

end Classes

section Members

theorem Constant.writable (constant : Constant) : Writable (room + 1) constant.toDocument :=
  .record (List.forall_mem_append.mpr ⟨by simp [Writable.text], forall_entryOf fun _ => .text⟩)

theorem Constant.ofDocument?_toDocument (constant : Constant) :
    ofDocument? constant.toDocument = some constant := by
  obtain ⟨identifier, value, comment⟩ := constant
  cases comment <;> rfl

namespace Declaration

theorem forall_entries {P : String × Document → Prop} (d : Declaration)
    (each : ∀ key ∈ ["identifier", "literal", "text"], ∀ s, P (key, .text s)) :
    ∀ entry ∈ d.entries, P entry := by
  refine List.forall_mem_append.mpr ⟨List.forall_mem_append.mpr ⟨?_, ?_⟩, ?_⟩
  · exact List.forall_mem_singleton.mpr (each _ (by simp) _)
  · exact forall_entryOf fun _ => each _ (by simp) _
  · exact forall_entryOf fun _ => each _ (by simp) _

theorem writable (d : Declaration) : Writable (room + 1) d.toDocument :=
  .record (d.forall_entries fun _ _ _ => .text)

theorem ofDocument?_toDocument (d : Declaration) : ofDocument? d.toDocument = some d := by
  obtain ⟨identifier, literal, text⟩ := d
  cases literal <;> cases text <;> rfl

end Declaration

namespace Method

theorem writable (m : Method) : Writable (room + 2) (record m.entries) := by
  refine .record (List.forall_mem_append.mpr ⟨?_, forall_entryOf fun _ => .text⟩)
  simp [Writable.text, writable_ofTexts]

theorem untagged (m : Method) : ∀ entry ∈ m.entries, entry.1 ≠ "kind" := by
  refine List.forall_mem_append.mpr ⟨?_, forall_entryOf fun _ => ?_⟩ <;> simp

theorem ofDocument?_entries (m : Method) : ofDocument? (record m.entries) = some m := by
  obtain ⟨name, parameters, text⟩ := m
  have texts := asTexts?_ofTexts parameters
  cases text with
  | none =>
    change (asTexts? (ofTexts parameters)).bind _ = _
    rw [texts]
    rfl
  | some text =>
    change (asTexts? (ofTexts parameters)).bind _ = _
    rw [texts]
    rfl

end Method

namespace Member

theorem writable (member : Member) : Writable (room + 2) member.toDocument := by
  cases member with
  | field d => exact writable_tagged d.writable
  | method m => exact writable_tagged m.writable

theorem ofDocument?_toDocument (member : Member) : ofDocument? member.toDocument = some member := by
  have readable := isReadable_of_writable (member.writable : Writable (0 + 2) _)
  cases member with
  | field d =>
    unfold ofDocument? toDocument
    rw [variant?_record rfl (d.forall_entries (by simp)) readable]
    dsimp only [Option.bind_eq_bind, Option.bind_some]
    rw [if_pos (beq_self_eq_true _), ← Declaration.toDocument, d.ofDocument?_toDocument]
    rfl
  | method m =>
    unfold ofDocument? toDocument
    rw [variant?_record rfl m.untagged readable]
    dsimp only [Option.bind_eq_bind, Option.bind_some]
    rw [if_neg (by decide), m.ofDocument?_entries]
    rfl

end Member

namespace MemberKey

theorem writable (key : MemberKey) : Writable (room + 2) key.toDocument := by
  cases key with
  | field name => exact .record (by simp [Writable.text])
  | method name parameters => exact .record (by simp [Writable.text, writable_ofTexts])

theorem ofDocument?_toDocument (isInner : Bool) (key : MemberKey) :
    ofDocument? isInner key.toDocument = some key := by
  have readable := isReadable_of_writable (key.writable : Writable (0 + 2) _)
  cases key with
  | field name =>
    unfold ofDocument? toDocument
    rw [variant?_record rfl (by simp) readable]
    rfl
  | method name parameters =>
    unfold ofDocument? toDocument
    rw [variant?_record rfl (by simp) readable]
    dsimp only [Option.bind_eq_bind, Option.bind_some]
    rw [if_neg (by decide)]
    change (asTexts? (ofTexts parameters)).bind _ = _
    rw [asTexts?_ofTexts]
    rfl

end MemberKey

namespace Snapshot

theorem writable (snapshot : Snapshot) : Writable (room + 4) snapshot.toDocument := by
  have members : Writable (room + 3) (list (snapshot.members.map Member.toDocument)) :=
    writable_list fun member _ => member.writable
  exact .record (by simp [writable_ofTexts, members])

theorem ofDocument?_toDocument (snapshot : Snapshot) :
    ofDocument? snapshot.toDocument = some snapshot := by
  have members : asList? Member.ofDocument? (list (snapshot.members.map Member.toDocument)) =
      some snapshot.members :=
    asList?_list fun member _ => member.ofDocument?_toDocument
  change (do
    let members ← asList? Member.ofDocument? (list (snapshot.members.map Member.toDocument))
    let interfaces ← asTexts? (ofTexts snapshot.interfaces)
    return (⟨members, interfaces⟩ : Snapshot)) = some snapshot
  rw [members, asTexts?_ofTexts]
  rfl

/-- The file of a snapshot ends with a line break. -/
theorem load?_save (snapshot : Snapshot) : load? snapshot.save = some snapshot := by
  rw [load?, save, Json.read?_pretty_line snapshot.writable, Option.bind_some,
    snapshot.ofDocument?_toDocument]

end Snapshot

end Members

section Settings

theorem Options.writable (options : Options) : Writable (room + 1) options.toDocument :=
  .record (by simp [Writable.text])

theorem Options.ofDocument?_toDocument (options : Options) :
    ofDocument? options.toDocument = some options := rfl

namespace NameSet

/-- A name above all others is inserted at the end. -/
theorem insertSorted_of_lt {names : List String} (above : ∀ other ∈ names, other < name) :
    insertSorted name names = names ++ [name] := by
  induction names with
  | nil => rfl
  | cons first rest ih =>
    have after := above first List.mem_cons_self
    have later := ih fun other member => above other (List.mem_cons_of_mem _ member)
    rw [insertSorted, if_neg fun before => String.lt_irrefl _ (String.lt_trans before after),
      if_pos after, later]
    rfl

theorem foldl_insert_names {names : List String} {s : NameSet}
    (sorted : (s.names ++ names).Pairwise (· < ·)) :
    (names.foldl insert s).names = s.names ++ names := by
  induction names generalizing s with
  | nil => simp
  | cons name more ih =>
    have above : ∀ other ∈ s.names, other < name := fun other member =>
      (List.pairwise_append.mp sorted).2.2 other member name List.mem_cons_self
    have inserted : (s.insert name).names = s.names ++ [name] := insertSorted_of_lt above
    rw [List.foldl_cons, ih (by simpa [inserted] using sorted), inserted]
    simp

/-- The names of a set make the set again. -/
theorem ofList_names (s : NameSet) : ofList s.names = s :=
  eq_of_names_eq (foldl_insert_names (s := empty) s.sorted)

theorem ofDocument?_toDocument (s : NameSet) : ofDocument? s.toDocument = some s := by
  rw [ofDocument?, toDocument, asTexts?_ofTexts]
  exact congrArg some s.ofList_names

end NameSet

namespace Registry

theorem writable (r : Registry) : Writable (room + 2) r.toDocument :=
  .record (by simp [NameSet.toDocument, writable_ofTexts])

theorem ofDocument?_toDocument (r : Registry) : ofDocument? r.toDocument = some r := by
  change (NameSet.ofDocument? r.enums.toDocument).bind (fun enums =>
    (NameSet.ofDocument? r.structured.toDocument).bind fun structured =>
      (NameSet.ofDocument? r.serializable.toDocument).bind fun serializable =>
        some (⟨enums, structured, serializable⟩ : Registry)) = _
  simp only [NameSet.ofDocument?_toDocument]
  rfl

end Registry

namespace Config

theorem writable (config : Config) : Writable (room + 3) config.toDocument := by
  have types : Writable (room + 2) (record [("enums", ofTexts config.enums),
      ("structured", ofTexts config.structured), ("serializable", ofTexts config.serializable)]) :=
    .record (by simp [writable_ofTexts])
  exact .record (by simp [config.options.writable, types])

theorem typesOfDocument?_record (maySurpass : Bool) (enums structured serializable : List String) :
    typesOfDocument? maySurpass (record [("enums", ofTexts enums), ("structured", ofTexts structured),
      ("serializable", ofTexts serializable)]) = some (enums, structured, serializable) := by
  change (asTexts? (ofTexts enums)).bind (fun enums => (asTexts? (ofTexts structured)).bind fun structured =>
    (asTexts? (ofTexts serializable)).bind fun serializable =>
      some (enums, structured, serializable)) = _
  simp only [asTexts?_ofTexts]
  rfl

theorem ofDocument?_toDocument (maySurpass : Bool) (config : Config) :
    ofDocument? maySurpass config.toDocument = some config := by
  have types := typesOfDocument?_record maySurpass config.enums config.structured config.serializable
  change (typesOfDocument? maySurpass _).bind _ = _
  rw [types]
  rfl

end Config

end Settings
end Boilerplate
