import Boilerplate.Proofs.Document.JsonLayout
import Boilerplate.Proofs.Document.JsonScalars

/-! Documents written as JSON are read back, in whatever layout. Lists and records may stand in one
another as deep as the reader goes, and the fuel of the reader is enough for the length of the text. -/
namespace Boilerplate.Json

section Blanks

theorem skipSpace_append (blank : ∀ c ∈ before, isSpace c = true) (cs : List Char) :
    skipSpace (before ++ cs) = skipSpace cs :=
  List.dropWhile_append_of_pos blank

theorem skipSpace_cons (mark : isSpace c = false) (cs : List Char) : skipSpace (c :: cs) = c :: cs := by
  simp [skipSpace, mark]

theorem readValue_append (blank : ∀ c ∈ before, isSpace c = true) (fuel depth : Nat) (cs : List Char) :
    readValue fuel depth (before ++ cs) = readValue fuel depth cs := by
  cases fuel with
  | zero => rfl
  | succ fuel =>
    unfold readValue
    rw [skipSpace_append blank]

theorem readItems_append (blank : ∀ c ∈ before, isSpace c = true) (fuel depth : Nat) (cs : List Char) :
    readItems fuel depth (before ++ cs) = readItems fuel depth cs := by
  cases fuel with
  | zero => rfl
  | succ fuel =>
    unfold readItems
    rw [readValue_append blank]

theorem readEntries_append (blank : ∀ c ∈ before, isSpace c = true) (fuel depth : Nat) (cs : List Char) :
    readEntries fuel depth (before ++ cs) = readEntries fuel depth cs := by
  cases fuel with
  | zero => rfl
  | succ fuel =>
    unfold readEntries
    rw [skipSpace_append blank]

theorem isSpace_goesOn (space : isSpace c = true) : goesOn c = false := by
  simp only [isSpace, Bool.or_eq_true, beq_iff_eq] at space
  rcases space with ((rfl | rfl) | rfl) | rfl <;> rfl

theorem EndsNumber.append (ends : EndsNumber cs) (blank : ∀ c ∈ before, isSpace c = true) :
    EndsNumber (before ++ cs) := by
  cases before with
  | nil => exact ends
  | cons c before => exact endsNumber_cons (isSpace_goesOn (blank c List.mem_cons_self)) _

end Blanks

section Reading
variable {layout : Layout}

/-- What the reader can take in whole, in lists and records that stand at most `room` deep in one
another. -/
inductive Writable : Nat → Document → Prop where
  | null : Writable room .null
  | bool : Writable room (.bool b)
  | natural (short : (Nat.toDigits 10 n).length < 309) : Writable room (.natural n)
  | text : Writable room (.text s)
  | list (each : ∀ item ∈ items, Writable room item) : Writable (room + 1) (.list items)
  | record (each : ∀ entry ∈ entries, Writable room entry.2) : Writable (room + 1) (.record entries)

/-- A document at a depth is read back, whatever follows it. The reader recognizes its first
character. -/
structure ReadsBack (layout : Layout) (depth : Nat) (document : Document) : Prop where
  opens : ∀ level, ∃ c cs, spell layout level document = c :: cs ∧ isSpace c = false ∧ c ≠ ']'
  reads : ∀ level rest fuel, EndsNumber rest → 2 * (spell layout level document).length ≤ fuel →
    readValue fuel depth (spell layout level document ++ rest) = some (document, rest)

theorem readValue_bracket (fuel depth : Nat) (rest : List Char) :
    readValue (fuel + 1) depth ('[' :: rest) = match skipSpace rest with
      | ']' :: rest => some (nested depth (.list []), rest)
      | rest => (readItems fuel (depth + 1) rest).map fun (items, rest) =>
        (nested depth (.list items), rest) := rfl

theorem readValue_brace (fuel depth : Nat) (rest : List Char) :
    readValue (fuel + 1) depth ('\x7b' :: rest) = match skipSpace rest with
      | '\x7d' :: rest => some (nested depth (.record []), rest)
      | rest => (readEntries fuel (depth + 1) rest).map fun (entries, rest) =>
        (nested depth (recordOf entries), rest) := rfl

theorem readValue_list (fuel depth : Nat) (skipped : skipSpace rest = c :: cs) (other : c ≠ ']') :
    readValue (fuel + 1) depth ('[' :: rest) = (readItems fuel (depth + 1) (c :: cs)).map
      fun (items, rest) => (nested depth (.list items), rest) := by
  rw [readValue_bracket, skipped]
  split
  · rename_i same
    exact absurd (List.cons.inj same).1 other
  · rfl

theorem readValue_record (fuel depth : Nat) (skipped : skipSpace rest = '"' :: cs) :
    readValue (fuel + 1) depth ('\x7b' :: rest) = (readEntries fuel (depth + 1) ('"' :: cs)).map
      fun (entries, rest) => (nested depth (recordOf entries), rest) := by
  rewrite [readValue_brace, skipped]
  rfl

theorem isSpace_of_isDigit (digit : c.isDigit = true) : isSpace c = false := by
  refine Bool.eq_false_iff.mpr fun space => ?_
  have stops := isSpace_goesOn space
  simp [goesOn, digit] at stops

theorem readValue_digit (fuel depth : Nat) (digit : c.isDigit = true) (cs : List Char) :
    readValue (fuel + 1) depth (c :: cs) = readNumber (c :: cs) := by
  unfold readValue
  rw [skipSpace_cons (isSpace_of_isDigit digit)]
  split
  all_goals first | rfl | (rename_i same; rw [(List.cons.inj same).1] at digit; cases digit)

theorem readItems_next (read : readValue fuel depth cs = some (first, rest))
    (skipped : skipSpace rest = ',' :: others) : readItems (fuel + 1) depth cs = do
      let (more, rest) ← readItems fuel depth others
      return (first :: more, rest) := by
  conv =>
    lhs
    unfold readItems
  rw [read]
  dsimp only [Option.bind_eq_bind, Option.bind_some]
  rw [skipped]
  rfl

theorem readItems_last (read : readValue fuel depth cs = some (first, rest))
    (skipped : skipSpace rest = ']' :: others) :
    readItems (fuel + 1) depth cs = some ([first], others) := by
  unfold readItems
  rw [read]
  dsimp only [Option.bind_eq_bind, Option.bind_some]
  rw [skipped]
  rfl

theorem nested_of_lt (room : depth < maxDepth) (document : Document) :
    nested depth document = document := if_pos room

theorem quote_append (s : String) (rest : List Char) :
    (quote s).toList ++ rest = '"' :: (s.toList.flatMap escape ++ '"' :: rest) := by
  simp [quote]

/-- The key of an entry is read, and its value next. -/
theorem readEntries_quote (key : String) (fuel depth : Nat) (value : List Char) :
    readEntries (fuel + 1) depth ((quote key).toList ++ ':' :: value) = (do
      let (document, rest) ← readValue fuel depth value
      match skipSpace rest with
      | ',' :: rest =>
        let (more, rest) ← readEntries fuel depth rest
        return ((.text key, document) :: more, rest)
      | '\x7d' :: rest => return ([(.text key, document)], rest)
      | _ => none) := by
  have pieces := readPieces_quoted key.toList (':' :: value)
  rw [quote_append]
  conv =>
    lhs
    unfold readEntries
  rw [skipSpace_cons rfl]
  change (readPieces (key.toList.flatMap escape ++ '"' :: ':' :: value)).bind _ = _
  rw [pieces]
  dsimp only [Option.bind_eq_bind, Option.bind_some]
  rw [skipSpace_cons rfl]
  change (readValue fuel depth value).bind _ = _
  rewrite [textOf_piece]
  rfl

theorem readEntries_next (read : readValue fuel depth value = some (document, rest))
    (skipped : skipSpace rest = ',' :: others) :
    readEntries (fuel + 1) depth ((quote key).toList ++ ':' :: value) = do
      let (more, rest) ← readEntries fuel depth others
      return ((.text key, document) :: more, rest) := by
  rw [readEntries_quote, read]
  dsimp only [Option.bind_eq_bind, Option.bind_some]
  rw [skipped]
  rfl

theorem readEntries_last (read : readValue fuel depth value = some (document, rest))
    (skipped : skipSpace rest = '\x7d' :: others) :
    readEntries (fuel + 1) depth ((quote key).toList ++ ':' :: value) =
      some ([(.text key, document)], others) := by
  rw [readEntries_quote, read]
  dsimp only [Option.bind_eq_bind, Option.bind_some]
  rw [skipped]
  rfl

theorem readItems_spell {more : List Document} {first : Document}
    (each : ∀ item ∈ first :: more, ReadsBack layout depth item) (level : Nat) (rest : List Char)
    (fuel : Nat) (enough : 2 * ((spell layout (level + 1) first).length + (spellItems layout level more).length) <
      fuel) :
    readItems fuel depth (spell layout (level + 1) first ++ (spellItems layout level more ++ rest)) =
      some (first :: more, rest) := by
  -- The first item is the one that the last comma led to, and every comma pays for the fuel of a step.
  induction more generalizing first fuel with
  | nil =>
    cases fuel with
    | zero => omega
    | succ fuel =>
      unfold spellItems at enough ⊢
      have ends := (endsNumber_cons (c := ']') rfl rest).append (layout.gap_space level)
      have read := (each first List.mem_cons_self).reads (level + 1) _ fuel ends (by omega)
      have skipped : skipSpace (layout.gap level ++ ']' :: rest) = ']' :: rest :=
        (skipSpace_append (layout.gap_space level) _).trans (skipSpace_cons rfl rest)
      rw [List.append_assoc, List.singleton_append]
      exact readItems_last read skipped
  | cons next more ih =>
    cases fuel with
    | zero => omega
    | succ fuel =>
      unfold spellItems at enough ⊢
      simp only [List.length_cons, List.length_append] at enough
      have read := (each first List.mem_cons_self).reads (level + 1) _ fuel
        (endsNumber_cons (c := ',') rfl (layout.gap (level + 1) ++
          (spell layout (level + 1) next ++ (spellItems layout level more ++ rest)))) (by omega)
      have others := ih (fun item member => each item (List.mem_cons_of_mem _ member))
        fuel (by omega)
      rw [List.cons_append, List.append_assoc, List.append_assoc,
        readItems_next read (skipSpace_cons rfl _), readItems_append (layout.gap_space (level + 1)),
        others]
      rfl

theorem ReadsBack.list_cons {first : Document} {more : List Document}
    (each : ∀ item ∈ first :: more, ReadsBack layout (depth + 1) item) (room : depth < maxDepth) :
    ReadsBack layout depth (.list (first :: more)) := by
  constructor
  · intro level
    unfold spell
    exact ⟨_, _, rfl, rfl, by decide⟩
  · intro level rest fuel ends enough
    obtain ⟨c, cs, shape, mark, other⟩ := (each first List.mem_cons_self).opens (level + 1)
    unfold spell at enough ⊢
    simp only [List.length_cons, List.length_append] at enough
    cases fuel with
    | zero => omega
    | succ fuel =>
      have read := readItems_spell each level rest fuel (by omega)
      rw [shape, List.cons_append] at read
      have skipped : skipSpace (layout.gap (level + 1) ++
          (c :: (cs ++ (spellItems layout level more ++ rest)))) =
            c :: (cs ++ (spellItems layout level more ++ rest)) :=
        (skipSpace_append (layout.gap_space _) _).trans (skipSpace_cons mark _)
      rw [shape, List.cons_append, List.append_assoc, List.append_assoc, List.cons_append,
        readValue_list fuel depth skipped other, read, Option.map_some]
      dsimp only
      rw [nested_of_lt room]

/-- A record as its entries are read. -/
def readEntry (entry : String × Document) : Document × Document := (.text entry.1, entry.2)

theorem recordOf_readEntry (entries : List (String × Document)) :
    recordOf (entries.map readEntry) = .record entries := by
  have keys : (entries.map readEntry).mapM (fun entry => entry.1.asText?.map fun key => (key, entry.2)) =
      some entries := by
    induction entries with
    | nil => rfl
    | cons entry more ih =>
      rw [List.map_cons, List.mapM_cons, ih]
      rfl
  rw [recordOf, keys]

theorem readEntries_spell {more : List (String × Document)} {key : String} {first : Document}
    (each : ∀ entry ∈ (key, first) :: more, ReadsBack layout depth entry.2) (level : Nat)
    (rest : List Char) (fuel : Nat)
    (enough : 2 * ((spell layout (level + 1) first).length + (spellEntries layout level more).length) <
      fuel) :
    readEntries fuel depth ((quote key).toList ++ ':' :: (layout.pause ++
      (spell layout (level + 1) first ++ (spellEntries layout level more ++ rest)))) =
      some (((key, first) :: more).map readEntry, rest) := by
  have own : ReadsBack layout depth first := each _ List.mem_cons_self
  induction more generalizing key first fuel with
  | nil =>
    cases fuel with
    | zero => omega
    | succ fuel =>
      unfold spellEntries at enough ⊢
      have ends := (endsNumber_cons (c := '\x7d') rfl rest).append (layout.gap_space level)
      have read := own.reads (level + 1) _ fuel ends (by omega)
      have skipped : skipSpace (layout.gap level ++ '\x7d' :: rest) = '\x7d' :: rest :=
        (skipSpace_append (layout.gap_space level) _).trans (skipSpace_cons rfl rest)
      rw [← readValue_append layout.pause_space] at read
      rw [List.append_assoc, List.singleton_append]
      exact readEntries_last read skipped
  | cons next more ih =>
    cases fuel with
    | zero => omega
    | succ fuel =>
      unfold spellEntries at enough ⊢
      simp only [List.length_cons, List.length_append] at enough
      have read := own.reads (level + 1) _ fuel
        (endsNumber_cons (c := ',') rfl (layout.gap (level + 1) ++ ((quote next.1).toList ++
          ':' :: (layout.pause ++ (spell layout (level + 1) next.2 ++
            (spellEntries layout level more ++ rest)))))) (by omega)
      have others := @ih next.1 next.2
        (fun item member => each item (List.mem_cons_of_mem _ member)) fuel (by omega)
        (each _ (List.mem_cons_of_mem _ List.mem_cons_self))
      rw [← readValue_append layout.pause_space] at read
      simp only [List.cons_append, List.append_assoc]
      rw [readEntries_next read (skipSpace_cons rfl _), readEntries_append (layout.gap_space (level + 1)),
        others]
      rfl

theorem ReadsBack.record_cons {key : String} {first : Document} {more : List (String × Document)}
    (each : ∀ entry ∈ (key, first) :: more, ReadsBack layout (depth + 1) entry.2)
    (room : depth < maxDepth) : ReadsBack layout depth (.record ((key, first) :: more)) := by
  constructor
  · intro level
    unfold spell
    exact ⟨_, _, rfl, rfl, by decide⟩
  · intro level rest fuel ends enough
    unfold spell at enough ⊢
    simp only [List.length_cons, List.length_append] at enough
    cases fuel with
    | zero => omega
    | succ fuel =>
      have read := readEntries_spell each level rest fuel (by omega)
      rw [quote_append] at read
      simp only [List.cons_append, List.append_assoc]
      rw [quote_append, readValue_record fuel depth ((skipSpace_append (layout.gap_space _) _).trans
        (skipSpace_cons rfl _)), read, Option.map_some]
      dsimp only
      rw [recordOf_readEntry, nested_of_lt room]

theorem readsBack_of_spell (c : Char) (cs : List Char)
    (spelled : ∀ level, spell layout level document = c :: cs)
    (mark : isSpace c = false) (other : c ≠ ']')
    (read : ∀ rest fuel, EndsNumber rest →
      readValue (fuel + 1) depth (c :: (cs ++ rest)) = some (document, rest)) :
    ReadsBack layout depth document := by
  constructor
  · exact fun level => ⟨c, cs, spelled level, mark, other⟩
  · intro level rest fuel ends enough
    rw [spelled] at enough ⊢
    cases fuel with
    | zero => simp at enough
    | succ fuel => exact read rest fuel ends

theorem readsBack_bool (b : Bool) : ReadsBack layout depth (.bool b) := by
  cases b with
  | false =>
    exact readsBack_of_spell 'f' ['a', 'l', 's', 'e'] (fun _ => by unfold spell; rfl) rfl (by decide)
      fun _ _ _ => rfl
  | true =>
    exact readsBack_of_spell 't' ['r', 'u', 'e'] (fun _ => by unfold spell; rfl) rfl (by decide)
      fun _ _ _ => rfl

theorem readsBack_natural (short : (Nat.toDigits 10 n).length < 309) :
    ReadsBack layout depth (.natural n) := by
  obtain ⟨d, ds, shape⟩ := List.exists_cons_of_ne_nil (Nat.toDigits_ne_nil (n := n) (b := 10))
  have digit := isDigit_of_mem_toDigits (n := n) d (shape ▸ List.mem_cons_self)
  have spelled (level : Nat) : spell layout level (.natural n) = d :: ds := by
    rw [← shape]
    unfold spell
    exact Nat.toList_repr
  refine readsBack_of_spell _ _ spelled (isSpace_of_isDigit digit) ?_ fun rest fuel ends => ?_
  · rintro rfl
    cases digit
  · rw [readValue_digit fuel depth digit, ← List.cons_append, ← shape, readNumber_toDigits short ends]

theorem readsBack_text (s : String) : ReadsBack layout depth (.text s) := by
  have spelled (level : Nat) : spell layout level (.text s) =
      '"' :: (s.toList.flatMap escape ++ ['"']) := by
    unfold spell
    simp [scalar, quote]
  refine readsBack_of_spell _ _ spelled rfl (by decide) fun rest fuel ends => ?_
  rw [List.append_assoc, List.singleton_append]
  change (readPieces (s.toList.flatMap escape ++ '"' :: rest)).map _ = _
  rw [readPieces_quoted, Option.map_some]
  dsimp only
  rw [textOf_piece]

/-- Whatever is writable reads back where there is room for it. -/
theorem Writable.readsBack (writable : Writable room document) (inside : depth + room ≤ maxDepth) :
    ReadsBack layout depth document := by
  -- What is one level further in has one level less of room, so the sum stays within the bound.
  induction writable generalizing depth with
  | null =>
    exact readsBack_of_spell 'n' ['u', 'l', 'l'] (fun _ => by unfold spell; rfl) rfl (by decide)
      fun _ _ _ => rfl
  | bool => exact readsBack_bool _
  | natural short => exact readsBack_natural short
  | text => exact readsBack_text _
  | @list items room each ih =>
    have own : depth < maxDepth := by omega
    cases items with
    | nil =>
      refine readsBack_of_spell '[' [']'] (fun _ => by unfold spell; rfl) rfl (by decide)
        fun rest fuel _ => ?_
      change some (nested depth (.list []), rest) = _
      rw [nested_of_lt own]
    | cons first more => exact ReadsBack.list_cons (fun item member => ih item member (by omega)) own
  | @record entries room each ih =>
    have own : depth < maxDepth := by omega
    cases entries with
    | nil =>
      refine readsBack_of_spell '\x7b' ['\x7d'] (fun _ => by unfold spell; rfl) rfl
        (by decide) fun rest fuel _ => ?_
      change some (nested depth (.record []), rest) = _
      rw [nested_of_lt own]
    | cons first more => exact ReadsBack.record_cons (fun item member => ih item member (by omega)) own

theorem read?_spell (writable : Writable maxDepth document) (layout : Layout) (after : List Char)
    (blank : ∀ c ∈ after, isSpace c = true) :
    read? (String.ofList (spell layout 0 document ++ after)) = some document := by
  have whole : ReadsBack layout 0 document := writable.readsBack (by simp)
  have ends : EndsNumber (after ++ []) := EndsNumber.append (fun _ none => by cases none) blank
  have read := whole.reads 0 after (2 * (spell layout 0 document ++ after).length + 2)
    (by simpa using ends) (by simp; omega)
  have finished : skipSpace after = [] := by
    have skipped := skipSpace_append blank []
    simpa [skipSpace] using skipped
  unfold read?
  rw [String.toList_ofList]
  dsimp only
  rw [read]
  dsimp only
  rw [finished]
  rfl

theorem read?_pretty (writable : Writable maxDepth document) :
    read? (pretty 0 document) = some document := by
  have read := read?_spell writable .indented [] (by simp)
  rwa [List.append_nil, ← toList_pretty, String.ofList_toList] at read

theorem read?_pretty_line (writable : Writable maxDepth document) :
    read? (pretty 0 document ++ "\n") = some document := by
  have read := read?_spell writable .indented ['\n'] (List.forall_mem_singleton.mpr rfl)
  rwa [← toList_pretty, show ['\n'] = "\n".toList from rfl, ← String.toList_append,
    String.ofList_toList] at read

theorem read?_compact (writable : Writable maxDepth document) :
    read? (compact document) = some document := by
  have read := read?_spell writable .dense [] (by simp)
  rwa [List.append_nil, ← toList_compact, String.ofList_toList] at read

end Reading
end Boilerplate.Json
