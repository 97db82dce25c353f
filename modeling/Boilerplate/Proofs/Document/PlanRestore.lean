import Boilerplate.Document.PlanDocument
import Boilerplate.Proofs.Document.Restore

/-! Plans and their documents. Anchors count in 64 bits; nothing else bounds what can be written and
read again. -/
namespace Boilerplate.Merge
open Document
open Json (Writable)

section Indices

/-- An anchor counts in 64 bits. -/
def Anchor.Indexed : Anchor → Prop
  | endOfClass => True
  | afterExisting _ occurrence => occurrence < Nat.pow 2 64
  | afterPlanned index => index < Nat.pow 2 64

def Instruction.Indexed : Instruction → Prop
  | insert insertion => insertion.anchor.Indexed
  | _ => True

def ConstantPlan.Indexed (plan : ConstantPlan) : Prop :=
  ∀ insertion ∈ plan.insertions, insertion.anchor.Indexed

def EditPlan.Indexed (plan : EditPlan) : Prop :=
  ∀ instruction ∈ plan.instructions, instruction.Indexed

instance : DecidablePred Anchor.Indexed
  | .endOfClass => isTrue trivial
  | .afterExisting _ occurrence => inferInstanceAs (Decidable (occurrence < Nat.pow 2 64))
  | .afterPlanned index => inferInstanceAs (Decidable (index < Nat.pow 2 64))

instance : DecidablePred Instruction.Indexed
  | .insert insertion => inferInstanceAs (Decidable insertion.anchor.Indexed)
  | .remove _ => isTrue trivial
  | .implementInterface _ => isTrue trivial

instance : DecidablePred ConstantPlan.Indexed := fun plan =>
  inferInstanceAs (Decidable (∀ insertion ∈ plan.insertions, insertion.anchor.Indexed))

instance : DecidablePred EditPlan.Indexed := fun plan =>
  inferInstanceAs (Decidable (∀ instruction ∈ plan.instructions, instruction.Indexed))

end Indices

namespace Anchor

theorem writable {anchor : Anchor} (indexed : anchor.Indexed) :
    Writable (room + 3) anchor.toDocument := by
  cases anchor with
  | endOfClass => exact .record (by simp [Writable.text])
  | afterExisting member occurrence =>
    exact .record (by simp [Writable.text, member.writable, writable_natural indexed])
  | afterPlanned index => exact .record (by simp [Writable.text, writable_natural indexed])

theorem ofDocument?_toDocument (isInner : Bool) {anchor : Anchor} (indexed : anchor.Indexed) :
    ofDocument? isInner anchor.toDocument = some anchor := by
  have readable := isReadable_of_writable (writable indexed : Writable (0 + 3) _)
  cases anchor with
  | endOfClass =>
    unfold ofDocument? toDocument
    rw [variant?_record rfl (by simp) readable]
    rfl
  | afterExisting member occurrence =>
    unfold ofDocument? toDocument
    rw [variant?_record rfl (by simp) readable]
    dsimp only [Option.bind_eq_bind, Option.bind_some]
    rw [if_neg (by decide), if_pos (beq_self_eq_true _)]
    change (MemberKey.ofDocument? true member.toDocument).bind (fun member =>
      (asIndex? (natural occurrence)).bind fun occurrence => some (afterExisting member occurrence)) = _
    rw [member.ofDocument?_toDocument, asIndex?_natural indexed]
    rfl
  | afterPlanned index =>
    unfold ofDocument? toDocument
    rw [variant?_record rfl (by simp) readable]
    dsimp only [Option.bind_eq_bind, Option.bind_some]
    rw [if_neg (by decide), if_neg (by decide)]
    change (asIndex? (natural index)).bind (fun index => some (afterPlanned index)) = _
    rw [asIndex?_natural indexed]
    rfl

end Anchor

namespace Insertion

theorem writable {insertion : Insertion} (indexed : insertion.anchor.Indexed) :
    Writable (room + 4) insertion.toDocument := by
  refine .record (List.forall_mem_append.mpr ⟨List.forall_mem_append.mpr ⟨?_, ?_⟩, ?_⟩)
  · simp [Writable.text, Anchor.writable indexed, insertion.member.writable]
  · exact forall_entryOf fun _ => .text
  · simp [Writable.bool]

theorem untagged (insertion : Insertion) : ∀ entry ∈ insertion.entries, entry.1 ≠ "op" := by
  refine List.forall_mem_append.mpr ⟨List.forall_mem_append.mpr ⟨?_, forall_entryOf fun _ => ?_⟩, ?_⟩ <;>
    simp

theorem ofDocument?_toDocument (isInner : Bool) {insertion : Insertion}
    (indexed : insertion.anchor.Indexed) :
    ofDocument? isInner insertion.toDocument = some insertion := by
  obtain ⟨anchor, member, text, literal, conflict⟩ := insertion
  have anchors := Anchor.ofDocument?_toDocument isInner indexed
  have members := member.ofDocument?_toDocument isInner
  cases literal with
  | none =>
    change (Anchor.ofDocument? isInner anchor.toDocument).bind (fun anchor =>
      (MemberKey.ofDocument? isInner member.toDocument).bind fun member =>
        some (⟨anchor, member, text, none, conflict⟩ : Insertion)) = _
    rw [anchors, members]
    rfl
  | some literal =>
    change (Anchor.ofDocument? isInner anchor.toDocument).bind (fun anchor =>
      (MemberKey.ofDocument? isInner member.toDocument).bind fun member =>
        some (⟨anchor, member, text, some literal, conflict⟩ : Insertion)) = _
    rw [anchors, members]
    rfl

end Insertion

namespace ConstantDecision

theorem writable (entry : ConstantDecision) : Writable (room + 1) entry.toDocument :=
  .record (by simp [Writable.text])

theorem ofDocument?_toDocument (entry : ConstantDecision) :
    ofDocument? entry.toDocument = some entry := by
  obtain ⟨identifier, decision⟩ := entry
  cases decision <;> rfl

theorem writable_decisions (entries : List ConstantDecision) :
    Writable (room + 2) (list (entries.map toDocument)) :=
  writable_list fun entry _ => entry.writable

theorem asList?_decisions (entries : List ConstantDecision) :
    asList? ofDocument? (list (entries.map toDocument)) = some entries :=
  asList?_list fun entry _ => entry.ofDocument?_toDocument

end ConstantDecision

open ConstantDecision (writable_decisions asList?_decisions)

namespace ConstantPlan
variable {plan : ConstantPlan}

theorem writable (indexed : plan.Indexed) : Writable (room + 6) plan.toDocument := by
  have insertions : Writable (room + 5) (list (plan.insertions.map Insertion.toDocument)) :=
    writable_list fun insertion member => Insertion.writable (indexed insertion member)
  exact .record (by simp [insertions, writable_decisions])

theorem ofDocument?_toDocument (indexed : plan.Indexed) :
    ofDocument? plan.toDocument = some plan := by
  have insertions : asList? (Insertion.ofDocument? false)
      (list (plan.insertions.map Insertion.toDocument)) = some plan.insertions :=
    asList?_list fun insertion member => Insertion.ofDocument?_toDocument false (indexed insertion member)
  change (asList? (Insertion.ofDocument? false)
    (list (plan.insertions.map Insertion.toDocument))).bind (fun insertions =>
      (asList? ConstantDecision.ofDocument?
        (list (plan.decisions.map ConstantDecision.toDocument))).bind fun decisions =>
          some (⟨insertions, decisions⟩ : ConstantPlan)) = _
  rw [insertions, asList?_decisions]
  rfl

end ConstantPlan

namespace Instruction

theorem writable {instruction : Instruction} (indexed : instruction.Indexed) :
    Writable (room + 4) instruction.toDocument := by
  cases instruction with
  | remove member => exact .record (by simp [Writable.text, member.writable])
  | insert insertion => exact writable_tagged (Insertion.writable indexed)
  | implementInterface interface => exact .record (by simp [Writable.text])

theorem ofDocument?_toDocument {instruction : Instruction} (indexed : instruction.Indexed) :
    ofDocument? instruction.toDocument = some instruction := by
  have readable := isReadable_of_writable (writable indexed : Writable (0 + 4) _)
  cases instruction with
  | remove member =>
    unfold ofDocument? toDocument
    rw [variant?_record rfl (by simp) readable]
    change (MemberKey.ofDocument? true member.toDocument).bind (fun member => some (remove member)) = _
    rw [member.ofDocument?_toDocument]
    rfl
  | insert insertion =>
    unfold ofDocument? toDocument
    rw [variant?_record rfl insertion.untagged readable]
    dsimp only [Option.bind_eq_bind, Option.bind_some]
    rw [if_neg (by decide), if_pos (beq_self_eq_true _), ← Insertion.toDocument,
      Insertion.ofDocument?_toDocument true indexed]
    rfl
  | implementInterface interface =>
    unfold ofDocument? toDocument
    rw [variant?_record rfl (by simp) readable]
    rfl

end Instruction

namespace EditPlan
variable {plan : EditPlan}

theorem writable (indexed : plan.Indexed) : Writable (room + 6) plan.toDocument := by
  have instructions : Writable (room + 5) (list (plan.instructions.map Instruction.toDocument)) :=
    writable_list fun instruction member => Instruction.writable (indexed instruction member)
  exact .record (by simp [instructions, writable_decisions])

theorem ofDocument?_toDocument (indexed : plan.Indexed) :
    ofDocument? plan.toDocument = some plan := by
  have instructions : asList? Instruction.ofDocument?
      (list (plan.instructions.map Instruction.toDocument)) = some plan.instructions :=
    asList?_list fun instruction member =>
      Instruction.ofDocument?_toDocument (indexed instruction member)
  change (asList? Instruction.ofDocument?
    (list (plan.instructions.map Instruction.toDocument))).bind (fun instructions =>
      (asList? ConstantDecision.ofDocument?
        (list (plan.decisions.map ConstantDecision.toDocument))).bind fun decisions =>
          some (⟨instructions, decisions⟩ : EditPlan)) = _
  rw [instructions, asList?_decisions]
  rfl

end EditPlan

end Boilerplate.Merge
