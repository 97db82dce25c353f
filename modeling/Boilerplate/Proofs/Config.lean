import Boilerplate.Config
import Boilerplate.Proofs.JavaType.RoundTrip
import Boilerplate.Proofs.Strategy.Precedence
import Boilerplate.Proofs.Text.Blank

/-! What a configuration registers. A listed class name is registered as what it reads as, whatever
blanks stand around it, so its type has a strategy. An entry that is written as a wildcard is let
through as well, but is registered as it is written, and no type has such a name. -/
namespace Boilerplate

namespace JavaType
open Text
variable {text : String} {type : JavaType}

/-- The text begins as a wildcard does. -/
def isWildcard (text : String) : Bool := (skipBlanks text.toList).head? == some '?'

theorem takeBrackets_flat (flat : (takeBrackets cs).1 = 0) : (takeBrackets cs).2 = skipBlanks cs := by
  fun_induction takeBrackets cs with
  | case1 rest ih => cases flat
  | case2 c rest other blank ih =>
    rw [ih flat, skipBlanks, skipBlanks, List.dropWhile_cons_of_pos blank]
  | case3 c rest other mark => rw [skipBlanks, List.dropWhile_cons_of_neg mark]
  | case4 => rfl

theorem readArguments_ne_nil {arguments : List JavaType}
    (read : readArguments fuel cs = .ok (arguments, rest)) : arguments ≠ [] := by
  cases fuel with
  | zero => cases read
  | succ fuel =>
    obtain ⟨_, _, _, rfl, _⟩ := readArguments_cases read
    exact List.cons_ne_nil _ _

/-- A class name between blanks is read as the trimmed text is named. -/
theorem eq_named_of_parse (read : parse text = .ok type) (plain : isWildcard text = false)
    (bare : type.arguments = []) (flat : type.isArray = false) : type = named (trim text) := by
  obtain ⟨rest, inside, ended⟩ := parse_eq_ok_iff_readType.mp read
  rcases readType_cases inside with ⟨tail, _, wild, _⟩ | ⟨tail, wild, _⟩ |
    ⟨name, arguments, after, taken, _, _, rfl, rfl, opened⟩
  · simp [isWildcard, wild] at plain
  · simp [isWildcard, wild] at plain
  · have depth : (takeBrackets after).1 = 0 := by simpa [isArray] using flat
    rcases opened with ⟨_, _, within⟩ | ⟨_, rfl, _⟩
    · exact absurd bare (readArguments_ne_nil within)
    · rw [takeBrackets_flat depth, skipBlanks_skipBlanks, skipBlanks_skipBlanks] at ended
      have word : trimBlanks text.toList = name := by
        have start : skipBlanks text.toList =
            name ++ (skipBlanks text.toList).dropWhile isNameCharacter := by
          rw [taken, List.takeWhile_append_dropWhile]
        refine trimBlanks_of_word start (fun c member => ?_) ended
        rw [taken] at member
        exact isBlank_of_isNameCharacter (List.mem_takeWhile_imp member)
      dsimp only at bare
      rw [named, trim, word, bare, depth]

/-- No type is called what a wildcard is registered as. -/
theorem canonical_not_isName (wild : isWildcard text = true) :
    ¬ IsName (Registry.canonical text) := by
  have mark : '?' ∈ text.toList := by
    rw [isWildcard, beq_iff_eq] at wild
    exact List.dropWhile_subset _ (List.mem_of_mem_head? wild)
  have kept : '?' ∈ (trim text).toList := mem_trim mark (by decide)
  have unknown : qualified? (trim text) = none := by
    have each : ∀ entry ∈ simpleNames, '?' ∉ entry.1.toList := by decide +kernel
    cases known : qualified? (trim text) with
    | none => rfl
    | some long =>
      have member : (trim text, long) ∈ simpleNames := mem_of_lookup known
      exact absurd kept (each (trim text, long) member)
  intro name
  have same : Registry.canonical text = trim text := by
    rw [Registry.canonical, qualify, unknown]
    rfl
  rw [same] at name
  exact absurd (name.characters '?' kept) (by decide)

end JavaType
namespace NameSet

theorem mem_insert {s : NameSet} {name other : String} :
    other ∈ (s.insert name).names ↔ other = name ∨ other ∈ s.names :=
  mem_insertSorted

theorem mem_foldl_insert {names : List String} {s : NameSet} {name : String} :
    name ∈ (names.foldl insert s).names ↔ name ∈ s.names ∨ name ∈ names := by
  induction names generalizing s with
  | nil => simp
  | cons first more ih =>
    rw [List.foldl_cons, ih, mem_insert, List.mem_cons, or_assoc, or_left_comm]

end NameSet

namespace Registry
variable {registry : Registry} {entry : String} {type : JavaType}

theorem ofLists_eq (enums structured serializable : List String) :
    ofLists enums structured serializable =
      ⟨.ofList (enums.map canonical), .ofList (structured.map canonical),
        .ofList (serializable.map canonical)⟩ := by
  have first (s a b : NameSet) : enums.foldl withEnum ⟨s, a, b⟩ =
      ⟨enums.foldl (fun s name => s.insert (canonical name)) s, a, b⟩ :=
    List.foldl_hom (fun s => Registry.mk s a b) fun _ _ => rfl
  have second (a s b : NameSet) : structured.foldl withStructured ⟨a, s, b⟩ =
      ⟨a, structured.foldl (fun s name => s.insert (canonical name)) s, b⟩ :=
    List.foldl_hom (fun s => Registry.mk a s b) fun _ _ => rfl
  have third (a b s : NameSet) : serializable.foldl withSerializable ⟨a, b, s⟩ =
      ⟨a, b, serializable.foldl (fun s name => s.insert (canonical name)) s⟩ :=
    List.foldl_hom (fun s => Registry.mk a b s) fun _ _ => rfl
  rw [ofLists, empty, first, second, third]
  simp only [NameSet.ofList, List.foldl_map]

/-- To register a wildcard is to register nothing. -/
theorem wildcard_ignored (wild : JavaType.isWildcard entry = true) (registry : Registry)
    (legal : JavaType.Legal type) :
    (registry.withEnum entry).isEnum type = registry.isEnum type ∧
      (registry.withStructured entry).isStructured type = registry.isStructured type ∧
      (registry.withSerializable entry).isSerializable type = registry.isSerializable type := by
  have other : type.base ≠ canonical entry := by
    intro same
    exact JavaType.canonical_not_isName wild (same ▸ legal.base)
  refine ⟨?_, ?_, ?_⟩
  · rw [Bool.eq_iff_iff, isEnum_iff, isEnum_iff, withEnum, NameSet.mem_insert, or_iff_right other]
  · rw [Bool.eq_iff_iff, isStructured_iff, isStructured_iff, withStructured, NameSet.mem_insert,
      or_iff_right other]
  · rw [Bool.eq_iff_iff, isSerializable_iff, isSerializable_iff, withSerializable, NameSet.mem_insert,
      or_iff_right other]

end Registry

theorem Resolver.resolve_ok {registry : Registry} {text : String} {type : JavaType}
    {strategy : Strategy} (read : JavaType.parse text = .ok type)
    (claimed : strategy.claims registry type = true) :
    ∃ winner, (ofRegistry registry).resolve text = .ok winner := by
  obtain ⟨winner, found⟩ : ∃ winner, (ofRegistry registry).strategy? type = some winner :=
    exists_strategy? (Strategy.mem_defaultOrder strategy) claimed
  exact ⟨winner, by simp only [resolve, resolution, read, found, Resolution.resolved?]⟩

namespace Config
variable {config : Config} {list entry : String} {entries : List String}

theorem checkEntry_sound (checked : checkEntry list entry = .ok ()) :
    ∃ type, JavaType.parse entry = .ok type ∧ type.isArray = false ∧ type.arguments = [] := by
  unfold checkEntry at checked
  split at checked
  · cases checked
  · rename_i type read
    split at checked
    · cases checked
    · rename_i plain
      simp only [Bool.or_eq_true, not_or, Bool.not_eq_true, Bool.not_eq_true', Bool.not_eq_false,
        List.isEmpty_iff] at plain
      exact ⟨type, read, plain⟩

theorem checkEntries_sound (checked : checkEntries list entries = .ok ()) :
    ∀ entry ∈ entries, checkEntry list entry = .ok () := by
  induction entries with
  | nil => simp
  | cons first more ih =>
    obtain ⟨_, here, others⟩ := bind_eq_ok_iff.mp checked
    intro entry member
    rcases List.mem_cons.mp member with rfl | later
    · exact here
    · exact ih others entry later

theorem validate_sound (valid : config.validate = .ok ()) :
    (∀ entry ∈ config.enums, checkEntry "enums" entry = .ok ()) ∧
      (∀ entry ∈ config.structured, checkEntry "structured" entry = .ok ()) ∧
      ∀ entry ∈ config.serializable, checkEntry "serializable" entry = .ok () := by
  unfold validate at valid
  split at valid
  · cases valid
  · split at valid
    · cases valid
    · obtain ⟨_, enums, others⟩ := bind_eq_ok_iff.mp valid
      obtain ⟨_, structured, serializable⟩ := bind_eq_ok_iff.mp others
      exact ⟨checkEntries_sound enums, checkEntries_sound structured, checkEntries_sound serializable⟩

/-- The entry reads as a type that the registry knows in that way, and so has a strategy. -/
def Honours (config : Config) (knows : Registry → JavaType → Bool) (entry : String) : Prop :=
  ∃ type, JavaType.parse entry = .ok type ∧ knows config.registry type = true ∧
    ∃ strategy, (Resolver.ofRegistry config.registry).resolve entry = .ok strategy

theorem honours_of_checked {knows : Registry → JavaType → Bool} (strategy : Strategy)
    (claims : ∀ type, knows config.registry type = true →
      strategy.claims config.registry type = true)
    (registered : ∀ type, type.isArray = false → type.base = Registry.canonical entry →
      knows config.registry type = true)
    (checked : checkEntry list entry = .ok ()) (plain : JavaType.isWildcard entry = false) :
    config.Honours knows entry := by
  obtain ⟨type, read, flat, bare⟩ := checkEntry_sound checked
  have base : type.base = Registry.canonical entry := by
    rw [JavaType.eq_named_of_parse read plain bare flat, JavaType.named, Registry.canonical]
  have known := registered type flat base
  exact ⟨type, read, known, Resolver.resolve_ok read (claims type known)⟩

theorem canonical_mem_ofList (member : entry ∈ entries) :
    Registry.canonical entry ∈ (NameSet.ofList (entries.map Registry.canonical)).names :=
  NameSet.mem_foldl_insert.mpr (.inr (List.mem_map_of_mem member))

/-- Every listed name of an accepted configuration counts, unless it is written as a wildcard. Such an
entry counts for nothing. -/
theorem entries_honoured_but_wildcards (valid : config.validate = .ok ()) :
    (∀ entry ∈ config.enums, JavaType.isWildcard entry = false →
      config.Honours Registry.isEnum entry) ∧
    (∀ entry ∈ config.structured, JavaType.isWildcard entry = false →
      config.Honours Registry.isStructured entry) ∧
    (∀ entry ∈ config.serializable, JavaType.isWildcard entry = false →
      config.Honours Registry.isSerializable entry) ∧
    ∀ entry, JavaType.isWildcard entry = true →
      ∀ (registry : Registry) (text : String) (type : JavaType), JavaType.parse text = .ok type →
        (registry.withEnum entry).isEnum type = registry.isEnum type ∧
        (registry.withStructured entry).isStructured type = registry.isStructured type ∧
        (registry.withSerializable entry).isSerializable type = registry.isSerializable type := by
  obtain ⟨enums, structured, serializable⟩ := validate_sound valid
  have sets := Registry.ofLists_eq config.enums config.structured config.serializable
  refine ⟨?_, ?_, ?_, ?_⟩
  · intro entry member
    refine honours_of_checked .enumeration (fun _ known => known) ?_ (enums entry member)
    intro type flat base
    refine Registry.isEnum_iff.mpr ⟨flat, ?_⟩
    rw [base, registry, sets]
    exact canonical_mem_ofList member
  · intro entry member
    refine honours_of_checked .structuredObject (fun _ known => known) ?_
      (structured entry member)
    intro type flat base
    refine Registry.isStructured_iff.mpr ⟨flat, .inr ?_⟩
    rw [base, registry, sets]
    exact canonical_mem_ofList member
  · intro entry member
    refine honours_of_checked .genericFallback
      (fun _ known => Bool.or_eq_true_iff.mpr (.inl known)) ?_ (serializable entry member)
    intro type flat base
    refine Registry.isSerializable_iff.mpr ⟨flat, ?_⟩
    rw [base, registry, sets]
    exact canonical_mem_ofList member
  · intro entry wild registry text type read
    exact Registry.wildcard_ignored wild registry (JavaType.parse_legal read)

/-- A configuration with one entry, under enumerations. -/
def ofEnumeration (entry : String) : Config := ⟨.standard, [entry], [], []⟩

theorem entries_honoured_but_wildcards_kind :
    (ofEnumeration " shop.Kind\t").validate = .ok () ∧
      JavaType.isWildcard " shop.Kind\t" = false ∧
      (ofEnumeration " shop.Kind\t").Honours Registry.isEnum " shop.Kind\t" := by
  have valid : (ofEnumeration " shop.Kind\t").validate = .ok () := by rfl
  have plain : JavaType.isWildcard " shop.Kind\t" = false := by rfl
  exact ⟨valid, plain, (entries_honoured_but_wildcards valid).1 _ List.mem_cons_self plain⟩

/-- The bound of a wildcard stays unknown, and has no strategy. -/
theorem wildcard_entry_unknown :
    (ofEnumeration "? extends shop.Kind").validate = .ok () ∧
      JavaType.parse "? extends shop.Kind" = .ok ⟨"shop.Kind", [], 0⟩ ∧
      (ofEnumeration "? extends shop.Kind").registry.isEnum ⟨"shop.Kind", [], 0⟩ = false ∧
      (Resolver.ofRegistry (ofEnumeration "? extends shop.Kind").registry).resolve
        "? extends shop.Kind" = .error ⟨"? extends shop.Kind", none⟩ := by
  refine ⟨?_, ?_, ?_, ?_⟩
  · rfl
  · rfl
  · rfl
  · rfl

end Config
end Boilerplate
