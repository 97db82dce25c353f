import Boilerplate.Proofs.Identifier
import Boilerplate.Proofs.JavaType.Grammar
import Boilerplate.Proofs.JavaType.Reading
import Mathlib.Data.List.Basic

/-! Types are read by their grammar. Each piece of a derivation is what the reader does at that place
of the text, so what is derived is read, and every step of the reader is a rule of the grammar. -/
namespace Boilerplate.JavaType
open Text

section Keywords
variable {cs rest : List Char} {keyword : String}

theorem afterKeyword?_eq_some_iff : afterKeyword? keyword cs = some rest ↔
    cs = keyword.toList ++ rest ∧ ∃ c more, rest = c :: more ∧ isBlank c = true := by
  unfold afterKeyword?
  constructor
  · intro found
    split at found
    · rename_i c more start
      split at found
      · rename_i blank
        cases found
        exact ⟨(List.isPrefixOf?_eq_some_iff_append_eq.mp start).symm, c, more, rfl, blank⟩
      · cases found
    · cases found
  · rintro ⟨rfl, c, more, rfl, blank⟩
    rw [List.isPrefixOf?_eq_some_iff_append_eq.mpr rfl]
    exact if_pos blank

/-- The keywords begin differently, so it does not matter which of them is tried first. -/
theorem bound?_eq_some_iff : bound? cs = some rest ↔
    ∃ keyword, (keyword = "extends" ∨ keyword = "super") ∧ afterKeyword? keyword cs = some rest := by
  have apart : afterKeyword? "super" cs = some rest → afterKeyword? "extends" cs = none := by
    intro other
    obtain ⟨rfl, _⟩ := afterKeyword?_eq_some_iff.mp other
    rfl
  unfold bound?
  constructor
  · intro found
    cases first : afterKeyword? "extends" cs with
    | some bound =>
      rw [first] at found
      exact ⟨_, .inl rfl, first.trans found⟩
    | none =>
      rw [first] at found
      exact ⟨_, .inr rfl, found⟩
  · rintro ⟨keyword, rfl | rfl, found⟩
    · rw [found]
      rfl
    · rw [apart found, found]
      rfl

theorem takesKeyword_of_bound? (found : bound? (skipBlanks cs) = some rest) :
    TakesKeyword cs (skipBlanks rest) := by
  obtain ⟨keyword, either, found⟩ := bound?_eq_some_iff.mp found
  obtain ⟨after, c, more, rfl, blank⟩ := afterKeyword?_eq_some_iff.mp found
  obtain ⟨before, blanks, split⟩ := exists_blanks cs
  obtain ⟨gap, blanksToo, others⟩ := exists_blanks more
  have shape : cs = before ++ (keyword.toList ++ ((c :: gap) ++ skipBlanks more)) := by
    rw [List.cons_append, ← others, ← after]
    exact split
  rw [show skipBlanks (c :: more) = skipBlanks more from List.dropWhile_cons_of_pos blank, shape]
  exact .intro blanks either (List.forall_mem_cons.mpr ⟨blank, blanksToo⟩) (List.cons_ne_nil _ _)

theorem TakesKeyword.bound? (taken : TakesKeyword cs rest) :
    ∃ gap, Blanks gap ∧ bound? (skipBlanks cs) = some (gap ++ rest) := by
  cases taken with
  | @intro before gap _ keyword blanks either blanksToo some =>
    refine ⟨gap, blanksToo, bound?_eq_some_iff.mpr ⟨keyword, either, ?_⟩⟩
    obtain ⟨c, more, rfl⟩ := List.exists_cons_of_ne_nil some
    refine afterKeyword?_eq_some_iff.mpr ⟨?_, c, more ++ rest, rfl, blanksToo c List.mem_cons_self⟩
    rw [skipBlanks_append blanks]
    rcases either with rfl | rfl
    · exact skipBlanks_cons (by decide)
    · exact skipBlanks_cons (by decide)

theorem bound?_eq_none_iff :
    JavaType.bound? (skipBlanks cs) = none ↔ ∀ bound, ¬TakesKeyword cs bound := by
  constructor
  · intro none bound taken
    obtain ⟨gap, _, found⟩ := taken.bound?
    rw [none] at found
    cases found
  · intro free
    cases found : JavaType.bound? (skipBlanks cs) with
    | none => rfl
    | some bound => exact absurd (takesKeyword_of_bound? found) (free _)

end Keywords

section Names
variable {cs name rest : List Char} {c : Char}

theorem isBlank_of_isNameCharacter (part : isNameCharacter c = true) : isBlank c = false := by
  by_cases dot : c = '.'
  · subst dot
    decide
  · apply Identifier.isBlank_of_isPart
    simpa [isNameCharacter, Identifier.isPart, dot] using part

theorem hasDoubledDot_iff : hasDoubledDot cs = true ↔ ['.', '.'] <:+: cs := by
  fun_induction hasDoubledDot cs with
  | case1 more => simp [List.infix_cons_iff]
  | case2 c cs other ih =>
    rw [ih, List.infix_cons_iff]
    constructor
    · exact .inr
    · rintro (⟨rest, same⟩ | later)
      · cases same
        exact absurd rfl (other rest rfl)
      · exact later
  | case3 => simp

theorem isPath_iff : IsPath name ↔
    name ≠ [] ∧ (∀ c ∈ name, isNameCharacter c = true) ∧ isWellDotted name = true := by
  have dotted : isWellDotted name = true ↔
      name.head? ≠ some '.' ∧ name.getLast? ≠ some '.' ∧ ¬['.', '.'] <:+: name := by
    rw [← hasDoubledDot_iff]
    simp [isWellDotted, and_assoc]
  rw [dotted]
  constructor
  · rintro ⟨nonempty, characters, first, last, apart⟩
    exact ⟨nonempty, characters, first, last, apart⟩
  · rintro ⟨nonempty, characters, first, last, apart⟩
    exact ⟨nonempty, characters, first, last, apart⟩

theorem IsPath.exists_cons (path : IsPath name) :
    ∃ first more, name = first :: more ∧ isNameCharacter first = true := by
  obtain ⟨first, more, rfl⟩ := List.exists_cons_of_ne_nil path.nonempty
  exact ⟨first, more, rfl, path.characters first List.mem_cons_self⟩

theorem IsPath.takeWhile (path : IsPath name) (ends : EndsPath rest) :
    (name ++ rest).takeWhile isNameCharacter = name := by
  rw [List.takeWhile_append_of_pos path.characters]
  cases rest with
  | nil => simp
  | cons c more => simp [ends c rfl]

theorem IsPath.dropWhile (path : IsPath name) (ends : EndsPath rest) :
    (name ++ rest).dropWhile isNameCharacter = rest := by
  rw [List.dropWhile_append_of_pos path.characters]
  cases rest with
  | nil => rfl
  | cons c more => simp [ends c rfl]

theorem takesName_takeWhile (nonempty : (skipBlanks cs).takeWhile isNameCharacter ≠ [])
    (dotted : isWellDotted ((skipBlanks cs).takeWhile isNameCharacter) = true) :
    TakesName cs ((skipBlanks cs).takeWhile isNameCharacter)
      (skipBlanks ((skipBlanks cs).dropWhile isNameCharacter)) := by
  obtain ⟨before, blanks, split⟩ := exists_blanks cs
  obtain ⟨after, blanksToo, others⟩ := exists_blanks ((skipBlanks cs).dropWhile isNameCharacter)
  have path : IsPath ((skipBlanks cs).takeWhile isNameCharacter) :=
    isPath_iff.mpr ⟨nonempty, fun c member => List.mem_takeWhile_imp member, dotted⟩
  have ends : EndsPath ((skipBlanks cs).dropWhile isNameCharacter) := by
    intro c first
    have mark := List.head?_dropWhile_not isNameCharacter (skipBlanks cs)
    rwa [first] at mark
  rw [others] at ends
  have taken := TakesName.intro blanks path ends blanksToo
  rwa [← others, List.takeWhile_append_dropWhile, ← split] at taken

end Names

section Brackets
variable {cs before rest : List Char} {c : Char} {depth : Nat}

/-- A blank is no bracket, so it is passed over. -/
theorem takeBrackets_cons (blank : isBlank c = true) (cs : List Char) :
    takeBrackets (c :: cs) = takeBrackets cs := by
  generalize whole : c :: cs = text
  fun_cases takeBrackets text with
  | case1 =>
    cases whole
    exact absurd blank (by decide)
  | case2 =>
    cases whole
    rfl
  | case3 _ _ _ mark =>
    cases whole
    exact absurd blank mark
  | case4 => cases whole

theorem takeBrackets_pair (cs : List Char) :
    takeBrackets ('[' :: ']' :: cs) = ((takeBrackets cs).1 + 1, (takeBrackets cs).2) := rfl

theorem takeBrackets_append (blanks : Blanks before) (cs : List Char) :
    takeBrackets (before ++ cs) = takeBrackets cs := by
  induction before with
  | nil => rfl
  | cons c more ih =>
    obtain ⟨blank, others⟩ := List.forall_mem_cons.mp blanks
    rw [List.cons_append, takeBrackets_cons blank, ih others]

theorem takeBrackets_skipBlanks (cs : List Char) : takeBrackets (skipBlanks cs) = takeBrackets cs := by
  obtain ⟨before, blanks, split⟩ := exists_blanks cs
  conv_rhs => rw [split]
  exact (takeBrackets_append blanks _).symm

theorem takeBrackets_of_endsType (ends : EndsType rest) : takeBrackets rest = (0, rest) := by
  cases rest with
  | nil => rfl
  | cons c more =>
    rcases ends c rfl with rfl | rfl
    · rfl
    · rfl

theorem TakesBrackets.take (taken : TakesBrackets cs depth rest)
    (ends : EndsType (skipBlanks rest)) : takeBrackets cs = (depth, skipBlanks rest) := by
  induction taken with
  | none => rw [← takeBrackets_skipBlanks, takeBrackets_of_endsType ends]
  | pair blanks _ ih => rw [takeBrackets_append blanks, takeBrackets_pair, ih ends]

theorem TakesBrackets.cons (blank : isBlank c = true) (blanks : Blanks before)
    (taken : TakesBrackets cs depth (before ++ rest)) :
    ∃ before, Blanks before ∧ TakesBrackets (c :: cs) depth (before ++ rest) := by
  generalize left : before ++ rest = behind at taken
  cases taken with
  | none =>
    subst left
    exact ⟨c :: before, List.forall_mem_cons.mpr ⟨blank, blanks⟩, .none⟩
  | pair inner others =>
    subst left
    exact ⟨before, blanks, .pair (List.forall_mem_cons.mpr ⟨blank, inner⟩) others⟩

/-- The reader also passes the blanks behind the last pair, which are not part of the type. -/
theorem takesBrackets_takeBrackets (cs : List Char) : ∃ blanks, Blanks blanks ∧
    TakesBrackets cs (takeBrackets cs).1 (blanks ++ (takeBrackets cs).2) := by
  have empty : Blanks [] := List.forall_mem_nil _
  fun_induction takeBrackets cs with
  | case1 more ih =>
    obtain ⟨blanks, run, taken⟩ := ih
    exact ⟨blanks, run, .pair empty taken⟩
  | case2 c more other blank ih =>
    obtain ⟨blanks, run, taken⟩ := ih
    exact taken.cons blank run
  | case3 => exact ⟨[], empty, .none⟩
  | case4 => exact ⟨[], empty, .none⟩

end Brackets

section Steps
variable {cs name before rest : List Char}

/-- A type is read behind the blanks before it. -/
theorem readType_append_blanks (blanks : Blanks before) (fuel : Nat) (cs : List Char) :
    readType (fuel + 1) (before ++ cs) = readType (fuel + 1) cs := by
  rw [readType, readType, skipBlanks_append blanks]

theorem readType_skipBlanks {fuel : Nat} (read : readType fuel cs = .ok result) :
    readType fuel (skipBlanks cs) = .ok result := by
  cases fuel with
  | zero => cases read
  | succ fuel =>
    obtain ⟨before, blanks, split⟩ := exists_blanks cs
    rwa [split, readType_append_blanks blanks] at read

theorem readType_unbounded (none : bound? (skipBlanks cs) = none) (fuel : Nat) :
    readType (fuel + 1) ('?' :: cs) = .ok (object, skipBlanks cs) := by
  rw [readType, skipBlanks_cons (by decide)]
  simp only [none]

theorem readType_bounded (found : bound? (skipBlanks cs) = some bound) (fuel : Nat) :
    readType (fuel + 1) ('?' :: cs) = readType fuel bound := by
  rw [readType, skipBlanks_cons (by decide)]
  simp only [found]

/-- A name is taken whole, and what follows it decides on arguments. -/
theorem readType_name (taken : TakesName cs name rest) (fuel : Nat) :
    readType (fuel + 1) cs = match skipBlanks rest with
      | '<' :: inside => do
        let (arguments, after) ← readArguments fuel inside
        return (⟨qualify (String.ofList name), arguments, (takeBrackets after).1⟩,
          (takeBrackets after).2)
      | after => .ok (⟨qualify (String.ofList name), [], (takeBrackets after).1⟩,
          (takeBrackets after).2) := by
  cases taken with
  | @intro before _ after _ blanks path ends blanksToo =>
    obtain ⟨first, more, chars, part⟩ := path.exists_cons
    have visible : skipBlanks (name ++ (after ++ rest)) = name ++ (after ++ rest) := by
      rw [chars]
      exact skipBlanks_cons (isBlank_of_isNameCharacter part)
    obtain ⟨nonempty, _, dotted⟩ := isPath_iff.mp path
    rw [readType_append_blanks blanks, readType, visible]
    split
    · rename_i tail wild
      rw [chars] at wild
      cases wild
      exact absurd part (by decide)
    · have named : name.isEmpty = false := by simpa using nonempty
      dsimp only
      rewrite [path.takeWhile ends, path.dropWhile ends, dotted, named, skipBlanks_append blanksToo]
      rfl

theorem readType_plain (taken : TakesName cs name rest)
    (closed : ∀ inside, skipBlanks rest ≠ '<' :: inside) (fuel : Nat) :
    readType (fuel + 1) cs =
      .ok (⟨qualify (String.ofList name), [], (takeBrackets rest).1⟩, (takeBrackets rest).2) := by
  rw [readType_name taken]
  split
  · rename_i inside opened
    exact absurd opened (closed inside)
  · rw [takeBrackets_skipBlanks]

theorem readType_applied (taken : TakesName cs name ('<' :: inside)) {fuel : Nat}
    {arguments : List JavaType} {after : List Char}
    (read : readArguments fuel inside = .ok (arguments, after)) :
    readType (fuel + 1) cs =
      .ok (⟨qualify (String.ofList name), arguments, (takeBrackets after).1⟩,
        (takeBrackets after).2) := by
  rw [readType_name taken, skipBlanks_cons (by decide)]
  change (do
    let (arguments, after) ← readArguments fuel inside
    return (JavaType.mk (qualify (String.ofList name)) arguments (takeBrackets after).1,
      (takeBrackets after).2)) = _
  rw [read]
  rfl

theorem readArguments_last {fuel : Nat} {type : JavaType}
    (read : readType fuel cs = .ok (type, '>' :: rest)) :
    readArguments (fuel + 1) cs = .ok ([type], rest) := by
  rw [readArguments, read]
  rfl

theorem readArguments_next {fuel : Nat} {type : JavaType} {types : List JavaType} {more : List Char}
    (read : readType fuel cs = .ok (type, ',' :: more))
    (others : readArguments fuel more = .ok (types, rest)) :
    readArguments (fuel + 1) cs = .ok (type :: types, rest) := by
  rw [readArguments, read]
  change (do
    let (types, rest) ← readArguments fuel more
    return (type :: types, rest)) = _
  rw [others]
  rfl

end Steps

section Completeness

mutual
/-- What is derived is read up to the blanks behind it. Each character pays for two steps. -/
theorem Spells.read : ∀ {cs type rest}, Spells cs type rest → EndsType (skipBlanks rest) →
    ∀ fuel, 2 * cs.length < fuel → readType fuel cs = .ok (type, skipBlanks rest)
  | _, _, _, _, _, 0, enough => absurd enough (Nat.not_lt_zero _)
  | _, _, _, .unbounded blanks blanksToo free, ends, fuel + 1, enough => by
    rw [readType_append_blanks blanks, readType_unbounded (bound?_eq_none_iff.mpr free),
      skipBlanks_append blanksToo]
  | _, _, _, .bounded blanks keyword inner, ends, fuel + 1, enough => by
    obtain ⟨gap, run, found⟩ := keyword.bound?
    have shorter := keyword.length_lt
    simp only [List.length_append, List.length_cons] at enough
    have read := inner.read ends fuel (by omega)
    rw [readType_append_blanks blanks, readType_bounded found]
    cases fuel with
    | zero => omega
    | succ fuel => rw [readType_append_blanks run, read]
  | _, _, _, .plain name brackets, ends, fuel + 1, enough => by
    rw [readType_plain name (brackets.not_open ends), brackets.take ends]
  | _, _, _, .applied name inside brackets, ends, fuel + 1, enough => by
    have shorter := name.length_lt
    rw [List.length_cons] at shorter
    have read := inside.read fuel (by omega)
    rw [readType_applied name read, brackets.take ends]

theorem SpellsArguments.read : ∀ {cs types rest}, SpellsArguments cs types rest →
    ∀ fuel, 2 * cs.length + 1 < fuel → readArguments fuel cs = .ok (types, rest)
  | _, _, _, _, 0, enough => absurd enough (Nat.not_lt_zero _)
  | _, _, _, .last only blanks, fuel + 1, enough => by
    have read := only.read (endsType_mark blanks (.inr rfl) _) fuel (by omega)
    rw [skipBlanks_mark blanks (.inr rfl)] at read
    exact readArguments_last read
  | _, _, _, .next own blanks others, fuel + 1, enough => by
    have shorter := own.length_lt
    simp only [List.length_append, List.length_cons] at shorter
    have read := own.read (endsType_mark blanks (.inl rfl) _) fuel (by omega)
    rw [skipBlanks_mark blanks (.inl rfl)] at read
    exact readArguments_next read (others.read fuel (by omega))
end

end Completeness

/-- What is read is derived, with any fuel. -/
theorem spells_of_read (fuel : Nat) :
    (∀ {cs type rest}, readType fuel cs = .ok (type, rest) →
      ∃ blanks, Blanks blanks ∧ Spells cs type (blanks ++ rest)) ∧
    ∀ {cs types rest}, readArguments fuel cs = .ok (types, rest) → SpellsArguments cs types rest := by
  induction fuel with
  | zero =>
    constructor
    · intro cs type rest read
      cases read
    · intro cs types rest read
      cases read
  | succ fuel ih =>
    obtain ⟨derived, listed⟩ := ih
    constructor
    · intro cs type rest read
      obtain ⟨before, blanks, split⟩ := exists_blanks cs
      rcases readType_cases read with ⟨tail, bound, wild, found, inner⟩ |
        ⟨tail, wild, free, rfl, rfl⟩ |
        ⟨name, arguments, after, rfl, nonempty, dotted, rfl, rfl, inside⟩
      · obtain ⟨behind, run, own⟩ := derived (readType_skipBlanks inner)
        rw [split, wild]
        exact ⟨behind, run, .bounded blanks (takesKeyword_of_bound? found) own⟩
      · obtain ⟨after, blanksToo, others⟩ := exists_blanks tail
        rw [bound?_eq_none_iff, others] at free
        have own := Spells.unbounded blanks blanksToo free
        rw [← others, ← wild, ← split] at own
        exact ⟨[], List.forall_mem_nil _, own⟩
      · obtain ⟨behind, run, brackets⟩ := takesBrackets_takeBrackets after
        have taken := takesName_takeWhile nonempty dotted
        refine ⟨behind, run, ?_⟩
        rcases inside with ⟨inner, opened, read⟩ | ⟨rfl, rfl, _⟩
        · rw [opened] at taken
          exact .applied taken (listed read) brackets
        · exact .plain taken brackets
    · intro cs types rest read
      obtain ⟨first, more, middle, rfl, here, others⟩ := readArguments_cases read
      obtain ⟨blanks, run, own⟩ := derived here
      obtain ⟨inner, runToo, split⟩ := exists_blanks middle
      rw [split, ← List.append_assoc] at own
      rcases others with ⟨tail, comma, later⟩ | ⟨rfl, closed⟩
      · rw [comma] at own
        exact .next own (run.append runToo) (listed later)
      · rw [closed] at own
        exact .last own (run.append runToo)

theorem parse_eq_ok_iff {text : String} {type : JavaType} :
    parse text = .ok type ↔ Denotes text type := by
  rw [parse_eq_ok_iff_readType]
  constructor
  · rintro ⟨rest, inside, ended⟩
    obtain ⟨blanks, run, own⟩ := (spells_of_read _).1 inside
    exact ⟨blanks ++ rest, run.append (skipBlanks_eq_nil_iff.mp ended), own⟩
  · rintro ⟨blanks, run, own⟩
    have ended : skipBlanks blanks = [] := skipBlanks_eq_nil_iff.mpr run
    have read := own.read (by rw [ended]; exact endsType_nil) (2 * text.toList.length + 2) (by omega)
    exact ⟨_, read, (skipBlanks_skipBlanks blanks).trans ended⟩

/-- A text is read as the one type that it denotes, and refused as a whole when it denotes none. -/
theorem recognizes_grammar (text : String) :
    (∀ type, parse text = .ok type ↔ Denotes text type) ∧
      (∀ one other, Denotes text one → Denotes text other → one = other) ∧
      ((∃ fault, parse text = .error ⟨text, fault⟩) ↔ ∀ type, ¬Denotes text type) := by
  refine ⟨fun type => parse_eq_ok_iff, ?_, ?_⟩
  · intro one other first second
    have same := (parse_eq_ok_iff.mpr first).symm.trans (parse_eq_ok_iff.mpr second)
    exact Except.ok.inj same
  · simp only [← parse_eq_ok_iff]
    constructor
    · rintro ⟨fault, refused⟩ type read
      rw [refused] at read
      cases read
    · intro none
      unfold parse at none ⊢
      cases read : readAll text.toList with
      | error fault => exact ⟨fault, rfl⟩
      | ok type => exact absurd (congrArg (Except.mapError _) read) (none type)

end Boilerplate.JavaType
