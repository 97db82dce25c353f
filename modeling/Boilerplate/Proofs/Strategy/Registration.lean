import Boilerplate.Proofs.Strategy.Precedence

/-! What becomes of a type when more names are registered. No claim is lost, so the type stays
supported, and its strategy gives way only to one that the new names let in before it. -/
namespace Boilerplate

/-- Every registered name is registered in the same way in the other registry. -/
structure Registry.Within (r larger : Registry) : Prop where
  enums : r.enums.names ⊆ larger.enums.names
  structured : r.structured.names ⊆ larger.structured.names
  serializable : r.serializable.names ⊆ larger.serializable.names

/-- A name that the second set has over the first. -/
def NameSet.Gains (before after : NameSet) (name : String) : Prop :=
  name ∈ after.names ∧ name ∉ before.names

section Claims
variable {r larger : Registry} {type : JavaType} {strategy : Strategy}

theorem Registry.isStructured_mono (within : r.Within larger)
    (structured : r.isStructured type = true) : larger.isStructured type = true := by
  obtain ⟨flat, own⟩ := isStructured_iff.mp structured
  exact isStructured_iff.mpr ⟨flat, own.imp_right fun member => within.structured member⟩

theorem Registry.gains_of_isStructured (now : larger.isStructured type = true)
    (before : r.isStructured type = false) : r.structured.Gains larger.structured type.base := by
  obtain ⟨flat, own⟩ := isStructured_iff.mp now
  rw [Bool.eq_false_iff, Ne, isStructured_iff, not_and, not_or] at before
  obtain ⟨other, absent⟩ := before flat
  exact ⟨own.resolve_left other, absent⟩

namespace Strategy

theorem claims_mono (within : r.Within larger) (claimed : strategy.claims r type = true) :
    strategy.claims larger type = true := by
  cases strategy with
  | enumeration =>
    obtain ⟨flat, member⟩ := Registry.isEnum_iff.mp claimed
    exact Registry.isEnum_iff.mpr ⟨flat, within.enums member⟩
  | typedListOfStructured =>
    obtain ⟨list, element⟩ := Bool.and_eq_true_iff.mp claimed
    obtain ⟨argument, first, structured⟩ := (Option.any_eq_true _ _).mp element
    exact Bool.and_eq_true_iff.mpr ⟨list,
      (Option.any_eq_true _ _).mpr ⟨argument, first, Registry.isStructured_mono within structured⟩⟩
  | structuredObject => exact Registry.isStructured_mono within claimed
  | genericFallback =>
    refine Bool.or_eq_true_iff.mpr ((Bool.or_eq_true_iff.mp claimed).imp_left fun own => ?_)
    obtain ⟨flat, member⟩ := Registry.isSerializable_iff.mp own
    exact Registry.isSerializable_iff.mpr ⟨flat, within.serializable member⟩
  | _ => exact claimed

/-- What registering names can make a strategy claim that did not claim it before. -/
inductive Admits (r larger : Registry) (type : JavaType) : Strategy → Prop where
  | enumeration : r.enums.Gains larger.enums type.base → Admits r larger type enumeration
  | element {argument : JavaType} : type.isOneOf JavaType.listNames = true →
      type.argument? 0 = some argument → r.structured.Gains larger.structured argument.base →
      Admits r larger type typedListOfStructured
  | structured : r.structured.Gains larger.structured type.base →
      Admits r larger type structuredObject
  | serializable : r.serializable.Gains larger.serializable type.base →
      Admits r larger type genericFallback

theorem admits_of_claims (now : strategy.claims larger type = true)
    (before : strategy.claims r type = false) : Admits r larger type strategy := by
  cases strategy with
  | enumeration =>
    obtain ⟨flat, member⟩ := Registry.isEnum_iff.mp now
    refine .enumeration ⟨member, fun present => ?_⟩
    exact Bool.eq_false_iff.mp before (Registry.isEnum_iff.mpr ⟨flat, present⟩)
  | typedListOfStructured =>
    obtain ⟨list, element⟩ := Bool.and_eq_true_iff.mp now
    obtain ⟨argument, first, structured⟩ := (Option.any_eq_true _ _).mp element
    refine .element list first (Registry.gains_of_isStructured structured ?_)
    refine Bool.eq_false_iff.mpr fun already => Bool.eq_false_iff.mp before ?_
    exact Bool.and_eq_true_iff.mpr ⟨list, (Option.any_eq_true _ _).mpr ⟨argument, first, already⟩⟩
  | structuredObject => exact .structured (Registry.gains_of_isStructured now before)
  | genericFallback =>
    obtain ⟨unregistered, unknown⟩ := Bool.or_eq_false_iff.mp before
    have own := (Bool.or_eq_true_iff.mp now).resolve_right (Bool.eq_false_iff.mp unknown)
    obtain ⟨flat, member⟩ := Registry.isSerializable_iff.mp own
    refine .serializable ⟨member, fun present => ?_⟩
    exact Bool.eq_false_iff.mp unregistered (Registry.isSerializable_iff.mpr ⟨flat, present⟩)
  | _ => exact absurd now (Bool.eq_false_iff.mp before)

/-- Lists are not written as primitives are, nor as arrays. -/
theorem not_primitive_of_list (list : type.isOneOf JavaType.listNames = true) :
    primitive.claims r type = false ∧ primitiveArray.claims r type = false := by
  obtain ⟨flat, listed⟩ := JavaType.isOneOf_iff.mp list
  constructor
  · refine Bool.eq_false_iff.mpr fun claimed => ?_
    obtain ⟨_, known⟩ := primitiveTransfer?_base claimed
    have knownToo : type.base ∈ genericList.knownNames := listed
    exact absurd (knownNames_apart known knownToo) (by decide)
  · refine Bool.eq_false_iff.mpr fun claimed => ?_
    rw [arraySuffix?_isArray claimed] at flat
    cases flat

end Strategy
end Claims

namespace Resolver
open Strategy
variable {r larger : Registry} {type : JavaType} {strategy later : Strategy}

/-- The strategy in the default order comes before the other. -/
def Precedes (one other : Strategy) : Prop := defaultOrder.idxOf one < defaultOrder.idxOf other

instance (one other : Strategy) : Decidable (Precedes one other) :=
  inferInstanceAs (Decidable (_ < _))

/-- The ways in which new names give a type another strategy. -/
inductive Displaced (r larger : Registry) (type : JavaType) : Strategy → Strategy → Prop where
  | enumeration {strategy : Strategy} : r.enums.Gains larger.enums type.base →
      Displaced r larger type strategy enumeration
  | element {argument : JavaType} : type.argument? 0 = some argument →
      r.structured.Gains larger.structured argument.base →
      Displaced r larger type genericList typedListOfStructured
  | structured : r.structured.Gains larger.structured type.base →
      Displaced r larger type genericFallback structuredObject

theorem displaced_of_precedes (found : strategy? (ofRegistry r) type = some strategy)
    (now : later.claims larger type = true) (ahead : Precedes later strategy) :
    Displaced r larger type strategy later := by
  obtain ⟨_, claimed, earliest⟩ := strategy?_eq_some_iff.mp found
  -- Whatever claimed the type already stands no earlier than its strategy.
  have behind (other : Strategy) (claims : other.claims r type = true) : ¬ Precedes other strategy :=
    Nat.not_lt.mpr (earliest other (mem_defaultOrder other) claims)
  have before : later.claims r type = false :=
    Bool.eq_false_iff.mpr fun claims => behind later claims ahead
  cases admits_of_claims now before with
  | enumeration gains => exact .enumeration gains
  | element list first gains =>
    have stop : ¬ Precedes genericList strategy := behind genericList list
    have others := not_primitive_of_list (r := r) list
    cases strategy with
    | genericList => exact .element first gains
    | primitive => exact absurd claimed (Bool.eq_false_iff.mp others.1)
    | primitiveArray => exact absurd claimed (Bool.eq_false_iff.mp others.2)
    | structuredObject => exact absurd (by decide) stop
    | genericFallback => exact absurd (by decide) stop
    | _ => exact absurd ahead (by decide)
  | structured gains =>
    cases strategy with
    | genericFallback => exact .structured gains
    | _ => exact absurd ahead (by decide)
  | serializable gains => cases strategy <;> exact absurd ahead (by decide)

/-- A type that a strategy claims keeps a strategy when names are registered, and gets another one
only in three ways. -/
theorem registering_keeps_support (within : r.Within larger)
    (found : strategy? (ofRegistry r) type = some strategy) :
    ∃ later, strategy? (ofRegistry larger) type = some later ∧
      (later = strategy ∨ Precedes later strategy) ∧
      (later ≠ strategy → Displaced r larger type strategy later) ∧
      (larger.enums = r.enums → larger.structured = r.structured → later = strategy) := by
  obtain ⟨listed, claimed, _⟩ := strategy?_eq_some_iff.mp found
  obtain ⟨later, foundToo⟩ : ∃ later, strategy? (ofRegistry larger) type = some later :=
    exists_strategy? listed (claims_mono within claimed)
  obtain ⟨listedToo, claims, earliest⟩ := strategy?_eq_some_iff.mp foundToo
  have turn : later = strategy ∨ Precedes later strategy := by
    rcases Nat.eq_or_lt_of_le (earliest strategy listed (claims_mono within claimed)) with same | less
    · exact .inl ((List.idxOf_inj listedToo).mp same)
    · exact .inr less
  have displaced (other : later ≠ strategy) : Displaced r larger type strategy later :=
    displaced_of_precedes found claims (turn.resolve_left other)
  refine ⟨later, foundToo, turn, displaced, fun enums structured => ?_⟩
  by_contra other
  cases displaced other with
  | enumeration gains => exact gains.2 (enums ▸ gains.1)
  | element _ gains => exact gains.2 (structured ▸ gains.1)
  | structured gains => exact gains.2 (structured ▸ gains.1)

/-- A list of the shop's items, whether they are registered or not. -/
def shopItems : JavaType := ⟨"java.util.List", [⟨"shop.Item", [], 0⟩], 0⟩

theorem registering_keeps_support_shop :
    (Registry.empty.withSerializable "shop.Payload").Within .shop ∧
      strategy? (ofRegistry (Registry.empty.withSerializable "shop.Payload")) shopItems =
        some genericList ∧
      ∃ later, strategy? (ofRegistry .shop) shopItems = some later ∧
        (later = genericList ∨ Precedes later genericList) ∧
        (later ≠ genericList → Displaced (Registry.empty.withSerializable "shop.Payload") .shop
          shopItems genericList later) ∧
        (Registry.shop.enums = (Registry.empty.withSerializable "shop.Payload").enums →
          Registry.shop.structured = (Registry.empty.withSerializable "shop.Payload").structured →
            later = genericList) := by
  have within : (Registry.empty.withSerializable "shop.Payload").Within .shop := by
    constructor <;> decide +kernel
  have found : strategy? (ofRegistry (Registry.empty.withSerializable "shop.Payload")) shopItems =
      some genericList := by
    decide +kernel
  exact ⟨within, found, registering_keeps_support within found⟩

end Resolver
end Boilerplate
