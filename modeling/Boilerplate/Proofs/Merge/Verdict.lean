import Boilerplate.Merge.Planner
import Boilerplate.Proofs.Member.Literal
import Boilerplate.Proofs.Merge.Anchor

/-! When the planner says what. Each verdict on a generated declaration is the same as a statement
about the declarations of the class, so later proofs never look into the planner's searches. -/
namespace Boilerplate.Merge
open Schema (MemberText)

/-- A search among the kept elements, as a search among all of them. -/
theorem findIdx?_filter_eq_some_iff {α : Type} {keep test : α → Bool} {as : List α} {n : Nat} :
    (as.filter keep).findIdx? test = some n ↔ ∃ before a after, as = before ++ a :: after ∧
      keep a = true ∧ test a = true ∧ (∀ b ∈ before, keep b = true → test b = false) ∧
        before.countP keep = n := by
  rw [← nthIdx?_zero, nthIdx?_eq_some_iff]
  constructor
  · rintro ⟨passed, a, rest, split, hit, none, length⟩
    obtain ⟨front, back, rfl, rfl, tail⟩ := List.filter_eq_append_iff.mp split
    obtain ⟨gap, after, rfl, skipped, kept, _⟩ := List.filter_eq_cons_iff.mp tail
    have absent := List.countP_eq_zero.mp none
    refine ⟨front ++ gap, a, after, by simp, kept, hit, ?_, ?_⟩
    · intro b member passes
      rcases List.mem_append.mp member with early | late
      · simpa using absent b (List.mem_filter.mpr ⟨early, passes⟩)
      · exact absurd passes (skipped b late)
    · rw [List.countP_append, List.countP_eq_length_filter, length, List.countP_eq_zero.mpr skipped,
        Nat.add_zero]
  · rintro ⟨before, a, after, rfl, kept, hit, missed, count⟩
    refine ⟨before.filter keep, a, after.filter keep, by simp [kept], hit, ?_, ?_⟩
    · refine List.countP_eq_zero.mpr fun b member => ?_
      obtain ⟨present, passes⟩ := List.mem_filter.mp member
      simp [missed b present passes]
    · rw [← List.countP_eq_length_filter, count]

namespace Verdict

variable {existing : List Declaration} {constant : Constant}

theorem of_eq_missing_iff : Verdict.of existing constant = .missing ↔
    ∀ declaration ∈ existing, declaration.identifier ≠ constant.identifier := by
  cases same : existing.filter fun declaration => declaration.identifier == constant.identifier with
  | nil =>
    have none := List.filter_eq_nil_iff.mp same
    simpa [Verdict.of, same] using none
  | cons first rest =>
    have member : first ∈ existing.filter fun declaration =>
        declaration.identifier == constant.identifier := by simp [same]
    obtain ⟨present, named⟩ := List.mem_filter.mp member
    constructor
    · intro missing
      simp only [Verdict.of, same] at missing
      split at missing <;> cases missing
    · intro none
      exact absurd (by simpa using named) (none first present)

theorem of_eq_held_iff {n : Nat} : Verdict.of existing constant = .held n ↔
    ∃ before declaration after, existing = before ++ declaration :: after ∧
      constant.holds declaration = true ∧ (∀ other ∈ before, constant.holds other = false) ∧
      (before.countP fun other => other.identifier == constant.identifier) = n := by
  have search : Verdict.of existing constant = .held n ↔
      (existing.filter fun declaration => declaration.identifier == constant.identifier).findIdx?
        (fun declaration => declaration.literal.any constant.matchesLiteral) = some n := by
    simp only [Verdict.of]
    split
    · rename_i none
      simp [none]
    · rename_i first rest some
      rw [some]
      cases (first :: rest).findIdx? fun declaration =>
        declaration.literal.any constant.matchesLiteral <;> simp
  rw [search, findIdx?_filter_eq_some_iff]
  simp only [Constant.holds, Bool.and_eq_true, Bool.and_eq_false_imp, and_assoc]

theorem of_eq_differing_iff {first : Declaration} : Verdict.of existing constant = .differing first ↔
    (existing.find? fun declaration => declaration.identifier == constant.identifier) = some first ∧
      ∀ declaration ∈ existing, constant.holds declaration = false := by
  have search : Verdict.of existing constant = .differing first ↔
      (existing.filter fun declaration => declaration.identifier == constant.identifier).head? =
          some first ∧
        (existing.filter fun declaration => declaration.identifier == constant.identifier).findIdx?
          (fun declaration => declaration.literal.any constant.matchesLiteral) = none := by
    simp only [Verdict.of]
    split
    · rename_i none
      simp [none]
    · rename_i found rest some
      rw [some]
      cases (found :: rest).findIdx? fun declaration =>
        declaration.literal.any constant.matchesLiteral <;> simp
  rw [search, List.head?_filter, List.findIdx?_eq_none_iff]
  simp only [List.mem_filter, Constant.holds, Bool.and_eq_false_imp, and_imp]

theorem exists_held_iff : (∃ n, Verdict.of existing constant = .held n) ↔
    ∃ declaration ∈ existing, constant.holds declaration = true := by
  constructor
  · rintro ⟨n, held⟩
    obtain ⟨before, declaration, after, rfl, holds, _⟩ := of_eq_held_iff.mp held
    exact ⟨declaration, by simp, holds⟩
  · rintro ⟨declaration, member, holds⟩
    cases verdict : Verdict.of existing constant with
    | missing =>
      have named : declaration.identifier = constant.identifier := by
        simp only [Constant.holds, Bool.and_eq_true, beq_iff_eq] at holds
        exact holds.1
      exact absurd named (of_eq_missing_iff.mp verdict declaration member)
    | held n => exact ⟨n, rfl⟩
    | differing first =>
      rw [(of_eq_differing_iff.mp verdict).2 declaration member] at holds
      cases holds

end Verdict

namespace MemberVerdict

variable {note : String} {snapshot : Snapshot} {member : MemberText}

theorem of_eq_missing_iff : MemberVerdict.of note snapshot member = .missing ↔
    ∀ existing ∈ snapshot.members, existing.key ≠ member.key := by
  constructor
  · intro missing
    simp only [MemberVerdict.of] at missing
    split at missing
    · rename_i none
      simpa using none
    · split at missing <;> cases missing
  · intro none
    have empty : (snapshot.members.filter fun existing => existing.key == member.key) = [] := by
      simpa using none
    simp [MemberVerdict.of, empty]

theorem of_eq_present_iff : MemberVerdict.of note snapshot member = .present ↔
    ∃ existing ∈ snapshot.members, existing.key = member.key ∧
      existing.text?.any (isGeneratedText note member.text) = true := by
  have search : (∃ existing ∈ snapshot.members, existing.key = member.key ∧
      existing.text?.any (isGeneratedText note member.text) = true) ↔
      (snapshot.members.filter fun existing => existing.key == member.key).any
        (fun existing => existing.text?.any (isGeneratedText note member.text)) = true := by
    simp
  rw [search]
  constructor
  · intro present
    simp only [MemberVerdict.of] at present
    split at present
    · cases present
    · split at present
      · assumption
      · cases present
  · intro found
    have some : (snapshot.members.filter fun existing =>
        existing.key == member.key).isEmpty = false := by
      cases same : snapshot.members.filter fun existing => existing.key == member.key with
      | nil => simp [same] at found
      | cons => rfl
    simp only [MemberVerdict.of, some, found, if_true, Bool.false_eq_true, if_false]

theorem of_eq_differing_iff : MemberVerdict.of note snapshot member = .differing ↔
    (∃ existing ∈ snapshot.members, existing.key = member.key) ∧
      ∀ existing ∈ snapshot.members, existing.key = member.key →
        existing.text?.any (isGeneratedText note member.text) = false := by
  constructor
  · intro differing
    constructor
    · refine Classical.byContradiction fun none => ?_
      have missing : MemberVerdict.of note snapshot member = .missing :=
        of_eq_missing_iff.mpr fun existing present same => none ⟨existing, present, same⟩
      simp [missing] at differing
    · intro existing present same
      refine Bool.eq_false_iff.mpr fun found => ?_
      have held : MemberVerdict.of note snapshot member = .present :=
        of_eq_present_iff.mpr ⟨existing, present, same, found⟩
      simp [held] at differing
  · rintro ⟨⟨existing, present, same⟩, different⟩
    cases verdict : MemberVerdict.of note snapshot member with
    | missing => exact absurd same (of_eq_missing_iff.mp verdict existing present)
    | present =>
      obtain ⟨other, among, named, found⟩ := of_eq_present_iff.mp verdict
      rw [different other among named] at found
      cases found
    | differing => rfl

end MemberVerdict
end Boilerplate.Merge
