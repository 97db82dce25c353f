import Boilerplate.Proofs.JavaType.Reading
import Boilerplate.Strategy.Resolver
import Mathlib.Data.List.Basic

/-! Which strategies compete for a type. A resolver answers with the first strategy that claims it,
and where no registered name has another use only the two list strategies ever claim the same type. So
an order of strategies matters as far as it says which of these two comes first. -/
namespace Boilerplate

/-- Where something is found, what else would do comes no earlier. -/
theorem idxOf_le_of_find? [BEq α] [LawfulBEq α] {as : List α} {test : α → Bool}
    (found : as.find? test = some a) (other : test b = true) : as.idxOf a ≤ as.idxOf b := by
  induction as with
  | nil => cases found
  | cons first rest ih =>
    by_cases here : test first = true
    · rw [List.find?_cons_of_pos here] at found
      cases found
      rw [List.idxOf_cons_self]
      exact Nat.zero_le _
    · rw [List.find?_cons_of_neg here] at found
      have passed (c : α) (fits : test c = true) : first ≠ c := by
        rintro rfl
        exact here fits
      rw [List.idxOf_cons_ne _ (passed a (List.find?_some found)),
        List.idxOf_cons_ne _ (passed b other)]
      exact Nat.succ_le_succ (ih found)

theorem Resolver.exists_strategy? {r : Resolver} {type : JavaType} {strategy : Strategy}
    (listed : strategy ∈ r.order) (claimed : strategy.claims r.registry type = true) :
    ∃ winner, r.strategy? type = some winner :=
  Option.isSome_iff_exists.mp (List.find?_isSome.mpr ⟨strategy, listed, claimed⟩)

/-- The answer is the first strategy in the order that claims the type. -/
theorem Resolver.strategy?_eq_some_iff {r : Resolver} {type : JavaType} {strategy : Strategy} :
    r.strategy? type = some strategy ↔
      strategy ∈ r.order ∧ strategy.claims r.registry type = true ∧
        ∀ other ∈ r.order, other.claims r.registry type = true →
          r.order.idxOf strategy ≤ r.order.idxOf other := by
  let test (strategy : Strategy) : Bool := strategy.claims r.registry type
  constructor
  · intro (found : r.order.find? test = some strategy)
    exact ⟨List.mem_of_find?_eq_some found, List.find?_some (p := test) found,
      fun other _ claimed => idxOf_le_of_find? found claimed⟩
  · rintro ⟨member, claimed, first⟩
    obtain ⟨winner, found⟩ : ∃ winner, r.order.find? test = some winner :=
      exists_strategy? member claimed
    have listed := List.mem_of_find?_eq_some found
    have before := idxOf_le_of_find? found claimed
    have after := first winner listed (List.find?_some (p := test) found)
    obtain rfl : winner = strategy := (List.idxOf_inj listed).mp (Nat.le_antisymm before after)
    exact found

section Families
variable {type : JavaType} {registry : Registry}

theorem JavaType.isExactly_iff : type.isExactly name = true ↔
    (type.isArray = false ∧ type.base = name) ∧ type.arguments = [] := by
  simp [isExactly, isArray, and_right_comm]

theorem JavaType.isOneOf_iff {names : List String} :
    type.isOneOf names = true ↔ type.isArray = false ∧ type.base ∈ names := by
  simp [isOneOf, isArray]

theorem Registry.isEnum_iff : registry.isEnum type = true ↔
    type.isArray = false ∧ type.base ∈ registry.enums.names := by
  simp [isEnum, NameSet.contains]

theorem Registry.isStructured_iff : registry.isStructured type = true ↔ type.isArray = false ∧
    (type.base = JavaType.parcelableName ∨ type.base ∈ registry.structured.names) := by
  simp [isStructured, NameSet.contains]

theorem Registry.isSerializable_iff : registry.isSerializable type = true ↔
    type.isArray = false ∧ type.base ∈ registry.serializable.names := by
  simp [isSerializable, NameSet.contains]

end Families

namespace JavaType

/-- All classes and primitives that strategies know without being told. -/
def builtInNames : List String :=
  [bundleName, dateName, sparseBooleanArrayName, stringName, parcelableName] ++ mapNames ++
    listNames ++ primitiveNames ++ boxedNames ++ serializableNames

end JavaType

/-- No name is registered in two ways, and none that strategies know without being told. -/
structure Registry.Apart (r : Registry) : Prop where
  enums_structured : ∀ name ∈ r.enums.names, name ∉ r.structured.names
  enums_serializable : ∀ name ∈ r.enums.names, name ∉ r.serializable.names
  structured_serializable : ∀ name ∈ r.structured.names, name ∉ r.serializable.names
  enums : ∀ name ∈ r.enums.names, name ∉ JavaType.builtInNames
  structured : ∀ name ∈ r.structured.names, name ∉ JavaType.builtInNames
  serializable : ∀ name ∈ r.serializable.names, name ∉ JavaType.builtInNames

namespace Strategy
variable {registry : Registry} {type : JavaType} {one other : Strategy} {name : String}

/-- The classes, not arrays, of which the strategy claims types without being told. -/
def knownNames : Strategy → List String
  | mapContainer => JavaType.bundleName :: JavaType.mapNames
  | date => [JavaType.dateName]
  | sparseBooleanArray => [JavaType.sparseBooleanArrayName]
  | typedListOfStructured => JavaType.listNames
  | primitive => JavaType.stringName :: (JavaType.primitiveNames ++ JavaType.boxedNames)
  | genericList => JavaType.listNames
  | structuredObject => [JavaType.parcelableName]
  | genericFallback => JavaType.serializableNames
  | _ => []

/-- The classes of which the strategy claims types because they are registered. -/
def registeredNames (registry : Registry) : Strategy → List String
  | enumeration => registry.enums.names
  | structuredObject => registry.structured.names
  | genericFallback => registry.serializable.names
  | _ => []

def isOfLists (strategy : Strategy) : Bool :=
  strategy = typedListOfStructured || strategy = genericList

theorem isOfLists_iff :
    one.isOfLists = true ↔ one = typedListOfStructured ∨ one = genericList := by
  simp [isOfLists]

section Names

theorem mem_defaultOrder (strategy : Strategy) : strategy ∈ defaultOrder := by
  cases strategy <;> decide

theorem knownNames_builtIn (known : name ∈ one.knownNames) : name ∈ JavaType.builtInNames := by
  have each : ∀ strategy ∈ defaultOrder, ∀ name ∈ strategy.knownNames,
      name ∈ JavaType.builtInNames := by
    decide +kernel
  exact each one (mem_defaultOrder one) name known

theorem knownNames_apart (first : name ∈ one.knownNames) (second : name ∈ other.knownNames) :
    one = other ∨ one.isOfLists = true ∧ other.isOfLists = true := by
  have each : ∀ one ∈ defaultOrder, ∀ other ∈ defaultOrder, ∀ name ∈ one.knownNames,
      name ∈ other.knownNames → one = other ∨ one.isOfLists = true ∧ other.isOfLists = true := by
    decide +kernel
  exact each one (mem_defaultOrder one) other (mem_defaultOrder other) name first second

theorem registeredNames_cases (registered : name ∈ one.registeredNames registry) :
    (one = enumeration ∧ name ∈ registry.enums.names) ∨
      (one = structuredObject ∧ name ∈ registry.structured.names) ∨
      (one = genericFallback ∧ name ∈ registry.serializable.names) := by
  cases one with
  | enumeration => exact .inl ⟨rfl, registered⟩
  | structuredObject => exact .inr (.inl ⟨rfl, registered⟩)
  | genericFallback => exact .inr (.inr ⟨rfl, registered⟩)
  | _ => cases registered

theorem registeredNames_not_builtIn (apart : registry.Apart)
    (registered : name ∈ one.registeredNames registry) : name ∉ JavaType.builtInNames := by
  rcases registeredNames_cases registered with ⟨_, member⟩ | ⟨_, member⟩ | ⟨_, member⟩
  · exact apart.enums name member
  · exact apart.structured name member
  · exact apart.serializable name member

theorem registeredNames_apart (apart : registry.Apart) (first : name ∈ one.registeredNames registry)
    (second : name ∈ other.registeredNames registry) : one = other := by
  rcases registeredNames_cases first with ⟨rfl, mine⟩ | ⟨rfl, mine⟩ | ⟨rfl, mine⟩ <;>
    rcases registeredNames_cases second with ⟨rfl, yours⟩ | ⟨rfl, yours⟩ | ⟨rfl, yours⟩
  · rfl
  · exact absurd yours (apart.enums_structured name mine)
  · exact absurd yours (apart.enums_serializable name mine)
  · exact absurd mine (apart.enums_structured name yours)
  · rfl
  · exact absurd yours (apart.structured_serializable name mine)
  · exact absurd mine (apart.enums_serializable name yours)
  · exact absurd mine (apart.structured_serializable name yours)
  · rfl

end Names

section Claims

theorem primitiveTransfer?_base (found : (primitiveTransfer? type).isSome = true) :
    type.isArray = false ∧ type.base ∈ primitive.knownNames := by
  unfold primitiveTransfer? at found
  split at found
  · cases found
  · rename_i bare
    simp only [Bool.or_eq_true, not_or, Bool.not_eq_true] at bare
    refine ⟨bare.1, ?_⟩
    split at found
    · rename_i suffix listed
      have each : ∀ entry ∈ directSuffixes, entry.1 ∈ primitive.knownNames := by decide
      exact each _ (JavaType.mem_of_lookup listed)
    · split at found
      · rename_i flag
        rw [beq_iff_eq.mp flag]
        decide
      · split at found
        · rename_i narrow
          simp only [Bool.or_eq_true, beq_iff_eq] at narrow
          rcases narrow with same | same <;> rw [same] <;> decide
        · split at found
          · rename_i boxed
            have member : type.base ∈ JavaType.boxedNames := List.contains_iff_mem.mp boxed
            exact List.mem_cons_of_mem _ (List.mem_append_right _ member)
          · cases found

theorem arraySuffix?_isArray (found : (arraySuffix? type).isSome = true) : type.isArray = true := by
  unfold arraySuffix? at found
  split at found
  · cases found
  · rename_i single
    simp only [Bool.or_eq_true, not_or, bne_iff_ne, ne_eq, Decidable.not_not] at single
    simp [JavaType.isArray, single.1]

/-- Arrays apart, a claimed type is of a class that the strategy knows or that is registered. -/
theorem claims_cases (claimed : one.claims registry type = true) :
    (one = primitiveArray ∧ type.isArray = true) ∨ type.isArray = false ∧
      (type.base ∈ one.knownNames ∨ type.base ∈ one.registeredNames registry) := by
  cases one with
  | mapContainer =>
    rcases Bool.or_eq_true_iff.mp claimed with bundle | map
    · obtain ⟨⟨flat, same⟩, _⟩ := JavaType.isExactly_iff.mp bundle
      exact .inr ⟨flat, .inl (same ▸ List.mem_cons_self)⟩
    · obtain ⟨flat, listed⟩ := JavaType.isOneOf_iff.mp map
      exact .inr ⟨flat, .inl (List.mem_cons_of_mem _ listed)⟩
  | date =>
    obtain ⟨⟨flat, same⟩, _⟩ := JavaType.isExactly_iff.mp claimed
    exact .inr ⟨flat, .inl (List.mem_singleton.mpr same)⟩
  | sparseBooleanArray =>
    obtain ⟨⟨flat, same⟩, _⟩ := JavaType.isExactly_iff.mp claimed
    exact .inr ⟨flat, .inl (List.mem_singleton.mpr same)⟩
  | enumeration =>
    obtain ⟨flat, registered⟩ := Registry.isEnum_iff.mp claimed
    exact .inr ⟨flat, .inr registered⟩
  | typedListOfStructured =>
    obtain ⟨list, _⟩ := Bool.and_eq_true_iff.mp claimed
    obtain ⟨flat, listed⟩ := JavaType.isOneOf_iff.mp list
    exact .inr ⟨flat, .inl listed⟩
  | primitive =>
    obtain ⟨flat, known⟩ := primitiveTransfer?_base claimed
    exact .inr ⟨flat, .inl known⟩
  | primitiveArray => exact .inl ⟨rfl, arraySuffix?_isArray claimed⟩
  | genericList =>
    obtain ⟨flat, listed⟩ := JavaType.isOneOf_iff.mp claimed
    exact .inr ⟨flat, .inl listed⟩
  | structuredObject =>
    obtain ⟨flat, parcelable | registered⟩ := Registry.isStructured_iff.mp claimed
    · exact .inr ⟨flat, .inl (List.mem_singleton.mpr parcelable)⟩
    · exact .inr ⟨flat, .inr registered⟩
  | genericFallback =>
    rcases Bool.or_eq_true_iff.mp claimed with serializable | known
    · obtain ⟨flat, registered⟩ := Registry.isSerializable_iff.mp serializable
      exact .inr ⟨flat, .inr registered⟩
    · obtain ⟨flat, listed⟩ := JavaType.isOneOf_iff.mp known
      exact .inr ⟨flat, .inl listed⟩

/-- Where no name has two uses, only the list strategies compete. -/
theorem eq_or_isOfLists_of_claims (apart : registry.Apart) (first : one.claims registry type = true)
    (second : other.claims registry type = true) :
    one = other ∨ one.isOfLists = true ∧ other.isOfLists = true := by
  rcases claims_cases first with ⟨rfl, array⟩ | ⟨flat, mine⟩
  · rcases claims_cases second with ⟨rfl, _⟩ | ⟨flat, _⟩
    · exact .inl rfl
    · rw [array] at flat
      cases flat
  · rcases claims_cases second with ⟨_, array⟩ | ⟨_, yours⟩
    · rw [flat] at array
      cases array
    · rcases mine with known | registered <;> rcases yours with knownToo | registeredToo
      · exact knownNames_apart known knownToo
      · exact absurd (knownNames_builtIn known) (registeredNames_not_builtIn apart registeredToo)
      · exact absurd (knownNames_builtIn knownToo) (registeredNames_not_builtIn apart registered)
      · exact .inl (registeredNames_apart apart registered registeredToo)

end Claims
end Strategy

namespace Resolver
open Strategy
variable {registry : Registry} {first second : List Strategy} {type : JavaType}

/-- Where both list strategies are asked, the typed one is asked before the other. -/
def ListsInOrder (order : List Strategy) : Prop :=
  typedListOfStructured ∈ order → genericList ∈ order →
    order.idxOf typedListOfStructured < order.idxOf genericList

instance (order : List Strategy) : Decidable (ListsInOrder order) :=
  inferInstanceAs (Decidable (_ → _ → _))

/-- A list of objects that both list strategies can write. -/
def parcelables : JavaType := ⟨"java.util.List", [⟨JavaType.parcelableName, [], 0⟩], 0⟩

/-- The first claimant stays the first in another order that asks the list strategies in turn. -/
theorem idxOf_le_of_claims (apart : registry.Apart)
    (same : ∀ strategy, strategy ∈ first ↔ strategy ∈ second) (inOrder : ListsInOrder first)
    (inOrderToo : ListsInOrder second) {winner other : Strategy}
    (found : strategy? ⟨first, registry⟩ type = some winner) (member : other ∈ second)
    (claimed : other.claims registry type = true) : second.idxOf winner ≤ second.idxOf other := by
  obtain ⟨listed, claims, earliest⟩ := strategy?_eq_some_iff.mp found
  have ahead : first.idxOf winner ≤ first.idxOf other :=
    earliest other ((same other).mpr member) claimed
  rcases eq_or_isOfLists_of_claims apart claims claimed with rfl | ⟨mine, yours⟩
  · exact Nat.le_refl _
  · rcases isOfLists_iff.mp mine with rfl | rfl <;> rcases isOfLists_iff.mp yours with rfl | rfl
    · exact Nat.le_refl _
    · exact Nat.le_of_lt (inOrderToo ((same _).mp listed) member)
    · have behind := inOrder ((same _).mpr member) listed
      exact absurd ahead (Nat.not_le_of_lt behind)
    · exact Nat.le_refl _

theorem strategy?_of_same (apart : registry.Apart)
    (same : ∀ strategy, strategy ∈ first ↔ strategy ∈ second) (inOrder : ListsInOrder first)
    (inOrderToo : ListsInOrder second) {winner : Strategy}
    (found : strategy? ⟨first, registry⟩ type = some winner) :
    strategy? ⟨second, registry⟩ type = some winner := by
  obtain ⟨listed, claims, _⟩ := strategy?_eq_some_iff.mp found
  exact strategy?_eq_some_iff.mpr ⟨(same winner).mp listed, claims,
    fun _ => idxOf_le_of_claims apart same inOrder inOrderToo found⟩

theorem parcelables_claims {strategy : Strategy} (list : strategy.isOfLists = true) :
    strategy.claims registry parcelables = true := by
  have listed : parcelables.isOneOf JavaType.listNames = true := by decide
  rcases isOfLists_iff.mp list with rfl | rfl
  · have structured : registry.isStructured ⟨JavaType.parcelableName, [], 0⟩ = true :=
      Registry.isStructured_iff.mpr ⟨rfl, .inl rfl⟩
    exact Bool.and_eq_true_iff.mpr ⟨listed, structured⟩
  · exact listed

/-- Among the list strategies in an order, the first one writes such lists. -/
theorem strategy?_parcelables (apart : registry.Apart) {order : List Strategy} {winner : Strategy}
    (member : winner ∈ order) (list : winner.isOfLists = true)
    (ahead : ∀ other ∈ order, other.isOfLists = true → order.idxOf winner ≤ order.idxOf other) :
    strategy? ⟨order, registry⟩ parcelables = some winner := by
  refine strategy?_eq_some_iff.mpr ⟨member, parcelables_claims list, fun other among claimed => ?_⟩
  rcases eq_or_isOfLists_of_claims apart (parcelables_claims list) claimed with rfl | ⟨_, too⟩
  · exact Nat.le_refl _
  · exact ahead other among too

/-- Two orders of the same strategies answer alike for all types if both ask the list strategies in
turn. If only one does, they differ. -/
theorem order_irrelevant_but_for_lists (apart : registry.Apart)
    (same : ∀ strategy, strategy ∈ first ↔ strategy ∈ second) (inOrder : ListsInOrder first) :
    (ListsInOrder second → ∀ type,
      strategy? ⟨first, registry⟩ type = strategy? ⟨second, registry⟩ type) ∧
    (¬ ListsInOrder second →
      strategy? ⟨first, registry⟩ parcelables = some typedListOfStructured ∧
        strategy? ⟨second, registry⟩ parcelables = some genericList) := by
  constructor
  · intro inOrderToo type
    apply Option.ext
    intro winner
    constructor
    · exact strategy?_of_same apart same inOrder inOrderToo
    · exact strategy?_of_same apart (fun strategy => (same strategy).symm) inOrderToo inOrder
  · intro reversed
    simp only [ListsInOrder, not_forall, Nat.not_lt] at reversed
    obtain ⟨typed, generic, ahead⟩ := reversed
    have turn := inOrder ((same _).mpr typed) ((same _).mpr generic)
    constructor
    · refine strategy?_parcelables apart ((same _).mpr typed) rfl fun other _ list => ?_
      rcases isOfLists_iff.mp list with rfl | rfl
      · exact Nat.le_refl _
      · exact Nat.le_of_lt turn
    · refine strategy?_parcelables apart generic rfl fun other _ list => ?_
      rcases isOfLists_iff.mp list with rfl | rfl
      · exact ahead
      · exact Nat.le_refl _

end Resolver

/-- A registry with a name of each kind. -/
def Registry.shop : Registry := .ofLists ["shop.Kind"] ["shop.Item"] ["shop.Payload"]

/-- The default order read backwards, but with the list strategies in turn, and one of them twice. -/
def Strategy.backwardsOrder : List Strategy :=
  [genericFallback, structuredObject, typedListOfStructured, genericList, primitiveArray, primitive,
   typedListOfStructured, enumeration, sparseBooleanArray, date, mapContainer]

namespace Resolver
open Strategy

theorem order_irrelevant_but_for_lists_shop :
    Registry.shop.Apart ∧ (∀ strategy, strategy ∈ defaultOrder ↔ strategy ∈ backwardsOrder) ∧
      ListsInOrder defaultOrder ∧ ListsInOrder backwardsOrder ∧
      (∀ type, strategy? ⟨defaultOrder, .shop⟩ type = strategy? ⟨backwardsOrder, .shop⟩ type) ∧
      ¬ ListsInOrder defaultOrder.reverse ∧
      strategy? ⟨defaultOrder.reverse, .shop⟩ parcelables = some genericList := by
  have apart : Registry.shop.Apart := by constructor <;> decide +kernel
  have same (strategy : Strategy) : strategy ∈ defaultOrder ↔ strategy ∈ backwardsOrder := by
    cases strategy <;> decide
  have reverse (strategy : Strategy) : strategy ∈ defaultOrder ↔ strategy ∈ defaultOrder.reverse :=
    List.mem_reverse.symm
  have inOrder : ListsInOrder defaultOrder := by decide
  have inOrderToo : ListsInOrder backwardsOrder := by decide
  have reversed : ¬ ListsInOrder defaultOrder.reverse := by decide
  exact ⟨apart, same, inOrder, inOrderToo,
    (order_irrelevant_but_for_lists apart same inOrder).1 inOrderToo, reversed,
    ((order_irrelevant_but_for_lists apart reverse inOrder).2 reversed).2⟩

end Resolver
end Boilerplate
