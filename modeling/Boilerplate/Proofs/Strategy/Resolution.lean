import Boilerplate.Proofs.JavaType.Reading
import Boilerplate.Strategy.Resolver

/-! What a claim is good for. A resolved type is claimed by its strategy, and for a claimed type the
strategy finds methods that a parcel has, never the nearest form. -/
namespace Boilerplate
open Parcel Transfer

theorem Field.type_legal {field : Field} {type : JavaType} (read : field.type = .ok type) :
    JavaType.Legal type :=
  JavaType.parse_legal (mapError_eq_ok_iff.mp read)

namespace Resolver
variable {r : Resolver} {field : Field} {resolved : Resolved}

theorem resolveField_eq_ok_iff : r.resolveField field = .ok resolved ↔
    field.type = .ok resolved.type ∧ r.strategy? resolved.type = some resolved.strategy := by
  unfold resolveField resolution
  cases field.type with
  | error cause => simp [Resolution.resolved?]
  | ok type =>
    dsimp only
    constructor
    · intro success
      cases found : r.strategy? type with
      | none => simp [found, Resolution.resolved?] at success
      | some strategy =>
        simp only [found, Resolution.resolved?, Except.ok.injEq] at success
        subst success
        exact ⟨rfl, found⟩
    · rintro ⟨same, found⟩
      obtain rfl : type = resolved.type := Except.ok.inj same
      simp only [found, Resolution.resolved?]

theorem claims_of_resolveField (success : r.resolveField field = .ok resolved) :
    resolved.strategy.claims r.registry resolved.type = true := by
  have found := (resolveField_eq_ok_iff.mp success).2
  rw [strategy?] at found
  exact List.find?_some (p := fun strategy => Strategy.claims strategy r.registry resolved.type) found

end Resolver

namespace Parcel.Transfer

/-- The parcel has methods of that name. -/
def Known : Transfer → Prop
  | direct suffix => suffix ∈ Strategy.directSuffixes.map Prod.snd
  | array suffix => suffix ∈ Strategy.arraySuffixes.map Prod.snd
  | widened type => type = "char" ∨ type = "short"
  | _ => True

/-- The types in it were read. -/
def Legal : Transfer → Prop
  | map key value => key.Legal ∧ value.Legal
  | ordinal name => JavaType.IsName name
  | typedList name => JavaType.IsName name
  | boxed type => type.Legal
  | list element => element.Legal
  | parcelable type => type.Legal
  | serializable type => type.Legal
  | _ => True

end Parcel.Transfer

namespace Strategy
variable {strategy : Strategy} {type : JavaType} {result : Transfer}

/-- All ways in which primitives, strings and boxed values cross. -/
theorem primitiveTransfer?_cases (found : primitiveTransfer? type = some result) :
    (∃ suffix, directSuffixes.lookup type.base = some suffix ∧ result = .direct suffix) ∨
      result = .flag ∨
      ((type.base = "char" ∨ type.base = "short") ∧ result = .widened type.base) ∨
      result = .boxed type := by
  unfold primitiveTransfer? at found
  split at found
  · cases found
  · split at found
    · rename_i suffix listed
      cases found
      exact .inl ⟨suffix, listed, rfl⟩
    · split at found
      · cases found
        exact .inr (.inl rfl)
      · split at found
        · rename_i narrow
          cases found
          exact .inr (.inr (.inl ⟨by simpa using narrow, rfl⟩))
        · split at found
          · cases found
            exact .inr (.inr (.inr rfl))
          · cases found

theorem primitiveTransfer?_known (found : primitiveTransfer? type = some result) :
    result.Known := by
  rcases primitiveTransfer?_cases found with ⟨suffix, listed, rfl⟩ | rfl | ⟨narrow, rfl⟩ | rfl
  · exact List.mem_map_of_mem (f := Prod.snd) (JavaType.mem_of_lookup listed)
  · trivial
  · exact narrow
  · trivial

theorem arraySuffix?_known (found : arraySuffix? type = some suffix) :
    suffix ∈ arraySuffixes.map Prod.snd := by
  unfold arraySuffix? at found
  split at found
  · cases found
  · exact List.mem_map_of_mem (f := Prod.snd) (JavaType.mem_of_lookup found)

theorem transfer_known (claimed : strategy.claims registry type = true) :
    (strategy.transfer type).Known := by
  cases strategy with
  | mapContainer =>
    unfold transfer
    dsimp only
    split <;> trivial
  | primitive =>
    obtain ⟨result, found⟩ := Option.isSome_iff_exists.mp claimed
    rw [Strategy.transfer, found]
    exact primitiveTransfer?_known found
  | primitiveArray =>
    obtain ⟨suffix, found⟩ := Option.isSome_iff_exists.mp claimed
    rw [Strategy.transfer, found]
    exact arraySuffix?_known found
  | _ => trivial

theorem primitiveTransfer?_legal (legal : type.Legal) (found : primitiveTransfer? type = some result) :
    result.Legal := by
  rcases primitiveTransfer?_cases found with ⟨_, _, rfl⟩ | rfl | ⟨_, rfl⟩ | rfl
  · trivial
  · trivial
  · trivial
  · exact legal

theorem transfer_legal (strategy : Strategy) (legal : type.Legal) : (strategy.transfer type).Legal := by
  cases strategy with
  | mapContainer =>
    unfold transfer
    dsimp only
    split
    · trivial
    · exact ⟨legal.argumentOrObject 0, legal.argumentOrObject 1⟩
  | enumeration => exact legal.base
  | typedListOfStructured => exact (legal.argumentOrObject 0).base
  | primitive =>
    unfold transfer
    cases found : primitiveTransfer? type with
    | none => exact legal
    | some result => exact primitiveTransfer?_legal legal found
  | genericList => exact legal.argumentOrObject 0
  | structuredObject => exact legal
  | genericFallback => exact legal
  | _ => trivial

end Strategy
end Boilerplate
