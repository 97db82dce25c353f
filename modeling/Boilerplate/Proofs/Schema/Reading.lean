import Boilerplate.Proofs.Schema.Legibility
import Boilerplate.Proofs.Schema.Warning
import Boilerplate.Proofs.Text.Lines

/-! Generated schema members as a reader sees them, line by line: the identifiers in the list of
columns, the calls that put content values, and the chain of tests on a column's name. What was
written is read back whole, up to the brace that closes it. -/
namespace Boilerplate.Schema
open Text
open Identifier (IsWord EndsWord endsWord_cons isPart)

section Projection

/-- The identifiers between the braces of the list of columns. -/
def readProjection (text : String) : Option (List String) := do
  let rest ← after? "public static final String[] FULL_PROJECTION = new String[] \x7b\n" text
  let [names, foot, last] := lines rest | none
  if foot != "\x7d;" || last != "" then none
  else return if names == "" then [] else (names.toList.splitOn ',').map String.ofList

theorem oneLine_intercalate {identifiers : List String}
    (words : ∀ identifier ∈ identifiers, IsWord identifier.toList) :
    OneLine (String.intercalate "," identifiers) := by
  induction identifiers with
  | nil => decide
  | cons first more ih =>
    have own := oneLine_of_isWord (words first List.mem_cons_self)
    have later := ih fun other member => words other (List.mem_cons_of_mem _ member)
    cases more with
    | nil => rwa [String.intercalate_singleton]
    | cons second more =>
      rw [String.intercalate_cons_cons, oneLine_append_iff, oneLine_append_iff]
      exact ⟨⟨own, by decide⟩, later⟩

theorem splitOn_intercalate_words {identifiers : List String} (some : identifiers ≠ [])
    (words : ∀ identifier ∈ identifiers, IsWord identifier.toList) :
    (String.intercalate "," identifiers).toList.splitOn ',' = identifiers.map String.toList := by
  rw [String.toList_intercalate, show ",".toList = [','] from rfl]
  refine List.splitOn_intercalate ',' ?_ (by simpa using some)
  intro characters member comma
  obtain ⟨identifier, among, rfl⟩ := List.mem_map.mp member
  exact absurd (words identifier among ',' comma) (by decide)

theorem readProjection_fullProjection {identifiers : List String}
    (words : ∀ identifier ∈ identifiers, IsWord identifier.toList)
    (named : ∀ identifier ∈ identifiers, identifier ≠ "") :
    readProjection (fullProjection identifiers) = some identifiers := by
  have body : fullProjection identifiers =
      "public static final String[] FULL_PROJECTION = new String[] \x7b\n" ++
        unlines [String.intercalate "," identifiers, "\x7d;"] := by
    unfold fullProjection unlines
    rw [show "\n\x7d;\n" = "\n" ++ ("\x7d;" ++ "\n") from rfl]
    simp only [List.map_cons, List.map_nil, String.join_cons, String.join_nil, String.append_assoc,
      String.append_empty]
  have oneLine : ∀ line ∈ [String.intercalate "," identifiers, "\x7d;"], OneLine line := by
    simpa using ⟨oneLine_intercalate words, by decide⟩
  have names : (if String.intercalate "," identifiers == "" then [] else
      ((String.intercalate "," identifiers).toList.splitOn ',').map String.ofList) =
        identifiers := by
    cases identifiers with
    | nil => rfl
    | cons first more =>
      have split := splitOn_intercalate_words (List.cons_ne_nil first more) words
      have filled : String.intercalate "," (first :: more) ≠ "" := by
        intro empty
        rw [empty, show "".toList.splitOn ',' = [[]] from rfl] at split
        have blank : first.toList = [] := (List.cons.inj split).1.symm
        exact named first List.mem_cons_self (String.toList_injective blank)
      rw [if_neg (by simpa using filled), split, List.map_map]
      simp [Function.comp_def]
  rw [readProjection, body, after?_append]
  dsimp only [Option.bind_eq_bind, Option.bind_some]
  rw [lines_unlines oneLine]
  exact congrArg some names

end Projection

section Values

/-- A call that puts a value under a key, with the field that is compared with null before it. -/
structure Put where
  guard : Option String
  key : String
  value : String
deriving DecidableEq, Repr

def readGuard (line : String) : Option String := do
  let (field, rest) := takeName (← after? "    if (this." line)
  if rest == " != null)" then some field else none

def readPut (guard : Option String) (call : String) : Option Put := do
  let (key, rest) := takeName (← after? "args.put(" call)
  let value ← before? ");" (← after? ", " rest)
  return ⟨guard, key, value⟩

/-- The last lines of a method. -/
def methodFoot : List String := ["\x7d", ""]

/-- The calls up to the end of the method. -/
def readPuts : List String → Option (List Put)
  | [] => none
  | line :: more =>
    if line == "    return args;" then if more == methodFoot then some [] else none
    else match readGuard line with
      | none => do
        let put ← readPut none (← after? "    " line)
        return put :: (← readPuts more)
      | some field => match more with
        | [] => none
        | call :: more => do
          let put ← readPut (some field) (← after? "        " call)
          return put :: (← readPuts more)

/-- The method up to its first call. -/
def contentHead : String :=
  "public android.content.ContentValues getDbContentValues() \x7b\n" ++
    "    android.content.ContentValues args = new android.content.ContentValues();\n"

def readContentValues (text : String) : Option (List Put) := do
  readPuts (lines (← after? contentHead text))

/-- The call of an entry. -/
def ContentEntry.call (entry : ContentEntry) : String :=
  "args.put(" ++ (entry.identifier ++ (", " ++ (entry.conversion.apply entry.field ++ ");")))

def ContentEntry.lines (entry : ContentEntry) : List String :=
  if entry.guarded then ["    if (this." ++ (entry.field ++ " != null)"), "        " ++ entry.call]
  else ["    " ++ entry.call]

/-- What is to be read of an entry. -/
def ContentEntry.put (entry : ContentEntry) : Put :=
  ⟨if entry.guarded then some entry.field else none, entry.identifier,
    entry.conversion.apply entry.field⟩

theorem ContentEntry.text_eq_unlines (entry : ContentEntry) : entry.text = unlines entry.lines := by
  unfold ContentEntry.text ContentEntry.lines ContentEntry.call unlines
  rw [show " != null)\n        " = " != null)" ++ ("\n" ++ "        ") from rfl,
    show ");\n" = ");" ++ "\n" from rfl]
  split <;>
    simp only [List.map_cons, List.map_nil, String.join_cons, String.join_nil, String.append_assoc,
      String.append_empty]

theorem readGuard_guarded (word : IsWord field.toList) :
    readGuard ("    if (this." ++ (field ++ " != null)")) = some field := by
  have read := takeName_append word " != null)" (endsWord_cons rfl _)
  rw [readGuard, after?_append]
  dsimp only [Option.bind_eq_bind, Option.bind_some]
  rw [read]
  rfl

theorem readGuard_call (entry : ContentEntry) : readGuard ("    " ++ entry.call) = none := by
  have apart : after? "    if (this." ("    " ++ entry.call) = none := by
    rw [after?, ContentEntry.call, String.toList_append, String.toList_append]
    rfl
  rw [readGuard, apart]
  rfl

theorem readPut_call {entry : ContentEntry} (made : Entry entry) (guard : Option String) :
    readPut guard entry.call =
      some ⟨guard, entry.identifier, entry.conversion.apply entry.field⟩ := by
  have ends : EndsWord (", " ++ (entry.conversion.apply entry.field ++ ");")).toList := by
    rw [String.toList_append]
    exact endsWord_cons rfl _
  rw [readPut, ContentEntry.call, after?_append]
  dsimp only [Option.bind_eq_bind, Option.bind_some]
  rw [takeName_append made.word _ ends]
  dsimp only
  rw [after?_append]
  dsimp only [Option.bind_some]
  rw [before?_append]
  rfl

theorem readPuts_lines {entries : List ContentEntry} (made : ∀ entry ∈ entries, Entry entry) :
    readPuts (entries.flatMap ContentEntry.lines ++ "    return args;" :: methodFoot) =
      some (entries.map ContentEntry.put) := by
  -- Neither form of an entry begins like the other, nor like the end.
  induction entries with
  | nil => rfl
  | cons entry more ih =>
    have own := made entry List.mem_cons_self
    have later := ih fun other member => made other (List.mem_cons_of_mem _ member)
    rw [List.flatMap_cons, List.append_assoc, List.map_cons]
    cases guarded : entry.guarded with
    | true =>
      have first : ("    if (this." ++ (entry.field ++ " != null)") == "    return args;") = false := by
        simp [← String.toList_inj]
      rw [ContentEntry.lines, if_pos guarded, List.cons_append, List.singleton_append, readPuts, first,
        readGuard_guarded own.field]
      simp only [Bool.false_eq_true, if_false, after?_append, Option.bind_eq_bind, Option.bind_some,
        readPut_call own, later, ContentEntry.put, guarded, if_true, Option.pure_def]
    | false =>
      have first : ("    " ++ entry.call == "    return args;") = false := by
        simp [ContentEntry.call, ← String.toList_inj]
      rw [ContentEntry.lines, if_neg (by simp [guarded]), List.singleton_append, readPuts, first,
        readGuard_call]
      simp only [Bool.false_eq_true, if_false, after?_append, Option.bind_eq_bind, Option.bind_some,
        readPut_call own, later, ContentEntry.put, guarded, Option.pure_def]

theorem oneLine_apply (conversion : ValueConversion) (word : IsWord name.toList) :
    OneLine (conversion.apply name) := by
  have own := oneLine_of_isWord word
  cases conversion with
  | verbatim => exact own
  | booleanAsInt => exact oneLine_append_iff.mpr ⟨own, by decide⟩
  | epochMillis => exact oneLine_append_iff.mpr ⟨own, by decide⟩

theorem oneLine_lines {entry : ContentEntry} (made : Entry entry) :
    ∀ line ∈ entry.lines, OneLine line := by
  have key := oneLine_of_isWord made.word
  have field := oneLine_of_isWord made.field
  have value := oneLine_apply entry.conversion made.field
  have call : OneLine entry.call := by
    simp only [ContentEntry.call, oneLine_append_iff, key, value]
    decide
  unfold ContentEntry.lines
  split
  · simp only [List.forall_mem_cons, oneLine_append_iff, field, call]
    simp only [List.not_mem_nil, false_implies, implies_true]
    decide
  · simp only [List.forall_mem_singleton, oneLine_append_iff, call]
    decide

theorem contentValues_eq (entries : List ContentEntry) : contentValues entries = contentHead ++
    unlines (entries.flatMap ContentEntry.lines ++ ["    return args;", "\x7d"]) := by
  have foot : unlines ["    return args;", "\x7d"] = "    return args;\n\x7d\n" := by
    simp [unlines]
  unfold contentValues contentHead
  rw [unlines_append, ← join_eq_unlines ContentEntry.text_eq_unlines, foot, String.append_assoc]

theorem oneLine_entries {entries : List ContentEntry} (made : ∀ entry ∈ entries, Entry entry) :
    ∀ line ∈ entries.flatMap ContentEntry.lines ++ ["    return args;", "\x7d"], OneLine line := by
  intro line member
  rcases List.mem_append.mp member with among | last
  · obtain ⟨entry, declared, own⟩ := List.mem_flatMap.mp among
    exact oneLine_lines (made entry declared) line own
  · exact (by decide : ∀ line ∈ ["    return args;", "\x7d"], OneLine line) line last

theorem readContentValues_contentValues {entries : List ContentEntry}
    (made : ∀ entry ∈ entries, Entry entry) :
    readContentValues (contentValues entries) = some (entries.map ContentEntry.put) := by
  rw [readContentValues, contentValues_eq, after?_append]
  dsimp only [Option.bind_eq_bind, Option.bind_some]
  rw [lines_unlines (oneLine_entries made), List.append_assoc]
  exact readPuts_lines made

end Values

section Cursor

/-- A chain of tests of a column's name against constants. -/
inductive Tests where
  /-- There is no chain. -/
  | none
  | otherwise (actions : List Action)
  | test (identifier field value : String) (more : Tests)
deriving DecidableEq, Repr

def readTest (front head body : String) : Option (Tests → Tests) := do
  let (identifier, rest) := takeName (← after? front head)
  if rest != ".equals(colname))\x7b" then Option.none
  else
    let (field, rest) := takeName (← after? "            this." body)
    let value ← before? ";" (← after? " = " rest)
    return .test identifier field value

/-- The lines after the code of the last branch: the ends of the chain, the loop and the method. -/
def chainFoot : List String := "        \x7d" :: "    \x7d" :: methodFoot

/-- The chain after its first test. -/
def readOthers : List String → Option Tests
  | [] => Option.none
  | head :: more =>
    if head == "        \x7d else \x7b" then do
      return .otherwise (← readActions (unlines (← chainFoot.isSuffixOf? more)))
    else match more with
      | [] => Option.none
      | body :: more => do
        let test ← readTest "        \x7d else if (" head body
        return test (← readOthers more)

def readTests : List String → Option Tests
  | [] => Option.none
  | head :: more =>
    if head == "    \x7d" then if more == methodFoot then some .none else Option.none
    else match more with
      | [] => Option.none
      | body :: more => do
        let test ← readTest "        if (" head body
        return test (← readOthers more)

/-- The method up to its chain. -/
def cursorHead : String :=
  "private final void createFromCursor(android.database.Cursor c)\x7b\n" ++
    "    int colCount = c.getColumnCount();\n" ++
    "    for(int i=0; i<colCount; i++)\x7b\n" ++
    "        final String colname = c.getColumnName(i);\n"

def readCursor (text : String) : Option Tests := do
  readTests (lines (← after? cursorHead text))

/-- The lines of a branch, the first of them after `front`. The brace that closes the branch begins
the next line. -/
def CursorBranch.lines (front : String) (branch : CursorBranch) : List String :=
  [front ++ (branch.identifier ++ ".equals(colname))\x7b"),
   "            this." ++ (branch.field ++ (" = " ++ (branch.reader.expression ++ ";")))]

/-- What is to be read of a branch. -/
def CursorBranch.test (branch : CursorBranch) : Tests → Tests :=
  .test branch.identifier branch.field branch.reader.expression

/-- What is to be read of a chain that ends with those actions. -/
def branchTests (actions : List Action) : List CursorBranch → Tests
  | [] => .none
  | first :: more => (first :: more).foldr CursorBranch.test (.otherwise actions)

theorem CursorBranch.text_append (front : String) (branch : CursorBranch) (rest : String) :
    front ++ (branch.text ++ rest) =
      unlines (branch.lines (front ++ "if (")) ++ ("        \x7d" ++ rest) := by
  unfold CursorBranch.text CursorBranch.lines unlines
  rw [show ".equals(colname))\x7b\n            this." =
      ".equals(colname))\x7b" ++ ("\n" ++ "            this.") from rfl,
    show ";\n        \x7d" = ";" ++ ("\n" ++ "        \x7d") from rfl]
  simp only [List.map_cons, List.map_nil, String.join_cons, String.join_nil, String.append_assoc,
    String.append_empty]

theorem join_branches (branches : List CursorBranch) (rest : String) :
    "        \x7d" ++ (String.join (branches.map fun branch => " else " ++ branch.text) ++ rest) =
      unlines (branches.flatMap (CursorBranch.lines "        \x7d else if (")) ++
        ("        \x7d" ++ rest) := by
  induction branches with
  | nil => simp [unlines]
  | cons branch more ih =>
    rw [List.map_cons, String.join_cons, List.flatMap_cons, unlines_append, String.append_assoc,
      String.append_assoc, String.append_assoc, ← ih, ← String.append_assoc]
    exact branch.text_append "        \x7d else " _

theorem cursorChain_eq (logTag : String) (first : CursorBranch) (more : List CursorBranch) :
    cursorChain logTag (first :: more) =
      unlines (first.lines "        if (" ++
        (more.flatMap (CursorBranch.lines "        \x7d else if (") ++ ["        \x7d else \x7b"])) ++
      (warning logTag ++ "        \x7d\n") := by
  have head : " else \x7b\n            android.util.Log.w(" =
      " else \x7b\n" ++ "            android.util.Log.w(" := rfl
  have foot : ", \"Unknown column name: \" + colname);\n        \x7d\n" =
      ", \"Unknown column name: \" + colname);\n" ++ "        \x7d\n" := by decide +kernel
  have last : unlines ["        \x7d else \x7b"] = "        \x7d" ++ " else \x7b\n" := by
    simp [unlines]
  unfold cursorChain warning
  dsimp only
  rw [head, foot]
  simp only [String.append_assoc]
  rw [first.text_append, join_branches]
  simp only [unlines_append, last, String.append_assoc]
  rfl

theorem readTest_lines (front : String) {branch : CursorBranch} (made : Branch branch) :
    readTest front (front ++ (branch.identifier ++ ".equals(colname))\x7b"))
      ("            this." ++ (branch.field ++ (" = " ++ (branch.reader.expression ++ ";")))) =
      some branch.test := by
  have identifier := takeName_append made.word ".equals(colname))\x7b" (endsWord_cons rfl _)
  have ends : EndsWord (" = " ++ (branch.reader.expression ++ ";")).toList := by
    rw [String.toList_append]
    exact endsWord_cons rfl _
  rw [readTest, after?_append]
  dsimp only [Option.bind_eq_bind, Option.bind_some]
  rw [identifier, after?_append]
  dsimp only [Option.bind_some]
  rw [takeName_append made.field _ ends]
  dsimp only
  rw [if_neg (by simp), after?_append]
  dsimp only [Option.bind_some]
  rw [before?_append]
  rfl

variable {actions : List Action} {body : List String}

theorem readOthers_lines {branches : List CursorBranch} (made : ∀ branch ∈ branches, Branch branch)
    (read : readActions (unlines body) = some actions) :
    readOthers (branches.flatMap (CursorBranch.lines "        \x7d else if (") ++
      "        \x7d else \x7b" :: (body ++ chainFoot)) =
      some (branches.foldr CursorBranch.test (.otherwise actions)) := by
  induction branches with
  | nil =>
    have foot : chainFoot.isSuffixOf? (body ++ chainFoot) = some body :=
      List.isSuffixOf?_eq_some_iff_append_eq.mpr rfl
    rw [List.flatMap_nil, List.nil_append, readOthers.eq_def]
    simp only [beq_self_eq_true, if_true, foot, read, Option.bind_eq_bind, Option.bind_some,
      Option.pure_def, List.foldr_nil]
  | cons branch more ih =>
    have later := ih fun other member => made other (List.mem_cons_of_mem _ member)
    have other : ("        \x7d else if (" ++ (branch.identifier ++ ".equals(colname))\x7b") ==
        "        \x7d else \x7b") = false := by simp [← String.toList_inj]
    rw [List.flatMap_cons, List.append_assoc, CursorBranch.lines, List.cons_append,
      List.singleton_append, readOthers, other]
    simp only [Bool.false_eq_true, if_false, readTest_lines _ (made branch List.mem_cons_self),
      later, Option.bind_eq_bind, Option.bind_some, Option.pure_def, List.foldr_cons]

theorem readTests_lines {first : CursorBranch} {more : List CursorBranch}
    (made : ∀ branch ∈ first :: more, Branch branch)
    (read : readActions (unlines body) = some actions) :
    readTests (first.lines "        if (" ++
      (more.flatMap (CursorBranch.lines "        \x7d else if (") ++
        "        \x7d else \x7b" :: (body ++ chainFoot))) =
      some (branchTests actions (first :: more)) := by
  have others := readOthers_lines (fun branch member => made branch (List.mem_cons_of_mem _ member)) read
  have filled : ("        if (" ++ (first.identifier ++ ".equals(colname))\x7b") ==
      "    \x7d") = false := by simp [← String.toList_inj]
  rw [CursorBranch.lines, List.cons_append, List.singleton_append, readTests, filled]
  simp only [Bool.false_eq_true, if_false, readTest_lines _ (made first List.mem_cons_self), others,
    Option.bind_eq_bind, Option.bind_some, Option.pure_def, branchTests, List.foldr_cons]

theorem oneLine_branch {branch : CursorBranch} (made : Branch branch) (oneLine : OneLine front) :
    ∀ line ∈ branch.lines front, OneLine line := by
  have expression : OneLine branch.reader.expression := by
    cases branch.reader <;> decide
  simp only [CursorBranch.lines, List.forall_mem_cons, oneLine_append_iff, oneLine,
    oneLine_of_isWord made.word, oneLine_of_isWord made.field, expression]
  simp only [List.not_mem_nil, false_implies, implies_true]
  decide

theorem oneLine_branches {first : CursorBranch} {more : List CursorBranch}
    (made : ∀ branch ∈ first :: more, Branch branch) : ∀ line ∈ first.lines "        if (" ++
      (more.flatMap (CursorBranch.lines "        \x7d else if (") ++ ["        \x7d else \x7b"]),
      OneLine line := by
  intro line member
  rcases List.mem_append.mp member with own | member
  · exact oneLine_branch (made first List.mem_cons_self) (by decide) line own
  · rcases List.mem_append.mp member with among | last
    · obtain ⟨branch, declared, own⟩ := List.mem_flatMap.mp among
      exact oneLine_branch (made branch (List.mem_cons_of_mem _ declared)) (by decide) line own
    · exact (by decide : ∀ line ∈ ["        \x7d else \x7b"], OneLine line) line last

/-- The tag may have lines of its own, so the code of the last branch may be more than one line. -/
theorem exists_lines_warning (logTag : String) : ∃ body, unlines body = warning logTag ∧
    lines (warning logTag ++ ("        \x7d\n" ++ "    \x7d\n\x7d\n")) = body ++ chainFoot := by
  obtain ⟨code, whole⟩ := warning_eq_line logTag
  have foot : "        \x7d\n" ++ "    \x7d\n\x7d\n" =
      unlines ["        \x7d", "    \x7d", "\x7d"] := by decide +kernel
  refine ⟨lines code, (unlines_lines code).trans whole.symm, ?_⟩
  rw [whole, String.append_assoc, lines_append, foot, lines_unlines (by decide)]
  rfl

/-- A class without fields has no chain to write the tag into. -/
theorem readCursor_cursorDeserializer {logTag : String} {branches : List CursorBranch}
    (made : ∀ branch ∈ branches, Branch branch)
    (read : branches ≠ [] → readActions (warning logTag) = some actions) :
    readCursor (cursorDeserializer logTag branches) = some (branchTests actions branches) := by
  have body : cursorDeserializer logTag branches =
      cursorHead ++ (cursorChain logTag branches ++ "    \x7d\n\x7d\n") := by
    unfold cursorDeserializer cursorHead
    simp only [String.append_assoc]
  rw [readCursor, body, after?_append]
  dsimp only [Option.bind_eq_bind, Option.bind_some]
  cases branches with
  | nil =>
    have foot : cursorChain logTag [] ++ "    \x7d\n\x7d\n" = unlines ["    \x7d", "\x7d"] := by
      unfold cursorChain
      simp [unlines]
    rw [foot, lines_unlines (by decide)]
    rfl
  | cons first more =>
    obtain ⟨code, whole, last⟩ := exists_lines_warning logTag
    rw [cursorChain_eq, String.append_assoc, String.append_assoc,
      lines_unlines_append (oneLine_branches made), last, List.append_assoc, List.append_assoc]
    exact readTests_lines made (whole ▸ read (List.cons_ne_nil first more))

end Cursor
end Boilerplate.Schema
