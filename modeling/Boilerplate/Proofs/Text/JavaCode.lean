import Boilerplate.Text.Hexadecimal
import Mathlib.Data.List.Basic

/-! What Java sees of a text. Escapes are read first, also in comments, so a comment may end with an
escape for the end of a line. Then comments, like blanks, only keep words apart. The code of a text is
its words. -/
namespace Boilerplate.Java
open Text

section Escapes

/-- A character as it is written and as it is read. Half of a surrogate pair is read as none. -/
structure Glyph where
  written : List Char
  read : Option Char
deriving DecidableEq, Repr

namespace Glyph

def plain (c : Char) : Glyph := ⟨[c], some c⟩

def endsLine (g : Glyph) : Bool := g.read == some '\n' || g.read == some '\r'

end Glyph

/-- What there is so far of an escape. -/
inductive Pending where
  | nothing
  | backslash
  /-- The letter, which may be repeated, and digits. -/
  | digits (letters : Nat) (taken : List Char)

namespace Pending

def written : Pending → List Char
  | nothing => []
  | backslash => ['\\']
  | digits letters taken => '\\' :: (List.replicate letters 'u' ++ taken)

def start (c : Char) : List Glyph × Pending :=
  if c = '\\' then ([], backslash) else ([.plain c], nothing)

/-- Of two backslashes in a row neither begins an escape. An escape that breaks off is taken as it
stands. -/
def next (c : Char) : Pending → List Glyph × Pending
  | nothing => start c
  | backslash => if c = 'u' then ([], digits 1 []) else ([.plain '\\', .plain c], nothing)
  | digits letters taken =>
    if c = 'u' ∧ taken = [] then ([], digits (letters + 1) [])
    else if (Hexadecimal.digit? c).isNone then
      ((digits letters taken).written.map .plain ++ (start c).1, (start c).2)
    else if taken.length < 3 then ([], digits letters (taken ++ [c]))
    else ([⟨(digits letters taken).written ++ [c], Hexadecimal.character? (taken ++ [c])⟩], nothing)

end Pending

def readGlyphs : Pending → List Char → List Glyph
  | pending, [] => pending.written.map .plain
  | pending, c :: rest => (pending.next c).1 ++ readGlyphs (pending.next c).2 rest

def glyphs (text : String) : List Glyph := readGlyphs .nothing text.toList

/-- Somewhere in the text a line ends, for Java. -/
def breaksLine (text : String) : Bool := (glyphs text).any Glyph.endsLine

/-- No line ends in the text as it is written. -/
def Unbroken (text : String) : Prop := '\n' ∉ text.toList ∧ '\r' ∉ text.toList

instance : DecidablePred Unbroken := fun text =>
  inferInstanceAs (Decidable ('\n' ∉ text.toList ∧ '\r' ∉ text.toList))

variable {c : Char} {text first second : String}

/-- A character that is no part of an escape is read wherever it stands. -/
theorem next_of_other (backslash : c ≠ '\\') (letter : c ≠ 'u') (digit : Hexadecimal.digit? c = none)
    (pending : Pending) : pending.next c = (pending.written.map .plain ++ [.plain c], .nothing) := by
  cases pending <;> simp [Pending.next, Pending.start, Pending.written, backslash, letter, digit]

theorem readGlyphs_append_cons (backslash : c ≠ '\\') (letter : c ≠ 'u')
    (digit : Hexadecimal.digit? c = none) (pending : Pending) (before after : List Char) :
    readGlyphs pending (before ++ c :: after) =
      readGlyphs pending before ++ .plain c :: readGlyphs .nothing after := by
  induction before generalizing pending with
  | nil =>
    rw [List.nil_append, readGlyphs, readGlyphs, next_of_other backslash letter digit, List.append_assoc]
    rfl
  | cons other before ih => rw [List.cons_append, readGlyphs, readGlyphs, ih, List.append_assoc]

/-- No escape goes beyond its line. -/
theorem glyphs_line (first second : String) :
    glyphs (first ++ ("\n" ++ second)) = glyphs first ++ .plain '\n' :: glyphs second := by
  rw [glyphs, String.toList_append, String.toList_append, show "\n".toList = ['\n'] from rfl,
    List.singleton_append]
  exact readGlyphs_append_cons (by decide) (by decide) (by decide) _ _ _

theorem glyphs_append (unescaped : '\\' ∉ first.toList) (second : String) :
    glyphs (first ++ second) = first.toList.map .plain ++ glyphs second := by
  rw [glyphs, glyphs, String.toList_append]
  generalize first.toList = cs at unescaped
  induction cs with
  | nil => rfl
  | cons c rest ih =>
    obtain ⟨other, later⟩ := not_or.mp (mt List.mem_cons.mpr unescaped)
    rw [List.cons_append, readGlyphs, Pending.next, Pending.start, if_neg (Ne.symm other), ih later]
    rfl

theorem glyphs_of_unescaped (unescaped : '\\' ∉ text.toList) :
    glyphs text = text.toList.map .plain := by
  have whole := glyphs_append unescaped ""
  rwa [String.append_empty, show glyphs "" = [] from rfl, List.append_nil] at whole

theorem unbroken_append_iff : Unbroken (first ++ second) ↔ Unbroken first ∧ Unbroken second := by
  simp [Unbroken, and_assoc, and_left_comm]

theorem breaksLine_append (unescaped : '\\' ∉ first.toList) (unbroken : Unbroken first)
    (second : String) : breaksLine (first ++ second) = breaksLine second := by
  have none : (first.toList.map Glyph.plain).any Glyph.endsLine = false := by
    rw [List.any_map, List.any_eq_false]
    intro c member
    have line : c ≠ '\n' := fun same => unbroken.1 (same ▸ member)
    have back : c ≠ '\r' := fun same => unbroken.2 (same ▸ member)
    simp [Glyph.endsLine, Glyph.plain, line, back]
  rw [breaksLine, glyphs_append unescaped, List.any_append, none, Bool.false_or]
  rfl

/-- The end of a line is read as such, whatever comes before it. -/
theorem breaksLine_of_mem (ends : c = '\n' ∨ c = '\r') (member : c ∈ text.toList) :
    breaksLine text = true := by
  have other : c ≠ '\\' ∧ c ≠ 'u' ∧ Hexadecimal.digit? c = none := by
    rcases ends with rfl | rfl <;> decide
  obtain ⟨before, after, split⟩ := List.append_of_mem member
  rw [breaksLine, glyphs, split, readGlyphs_append_cons other.1 other.2.1 other.2.2, List.any_append,
    List.any_cons]
  have line : (Glyph.plain c).endsLine = true := by
    rcases ends with rfl | rfl <;> rfl
  rw [line, Bool.true_or, Bool.or_true]

/-- Without escapes a line ends where it is seen to end. -/
theorem breaksLine_eq_false_iff (unescaped : '\\' ∉ text.toList) :
    breaksLine text = false ↔ Unbroken text := by
  constructor
  · intro whole
    constructor
    · intro line
      rw [breaksLine_of_mem (.inl rfl) line] at whole
      cases whole
    · intro back
      rw [breaksLine_of_mem (.inr rfl) back] at whole
      cases whole
  · intro unbroken
    have whole := breaksLine_append unescaped unbroken ""
    rwa [String.append_empty] at whole

end Escapes

section Comments

inductive Mode where
  | code
  /-- After a slash, which may begin a comment. -/
  | slash (first : Glyph)
  /-- In a literal, up to the mark. -/
  | quoted (mark : Char)
  | escaped (mark : Char)
  | lineComment
  | blockComment
  /-- In a comment, after an asterisk. -/
  | asterisk
deriving DecidableEq

def isBlank (c : Char) : Bool := [' ', '\t', '\n', '\r', '\x0c'].contains c

namespace Mode

/-- One step outside of comments and literals. What is left of the text is written out, with gaps
between words. -/
def start (g : Glyph) : List (Option Glyph) × Mode :=
  match g.read with
  | some '/' => ([], slash g)
  | some '"' => ([some g], quoted '"')
  | some '\'' => ([some g], quoted '\'')
  | some c => if isBlank c then ([none], code) else ([some g], code)
  | none => ([some g], code)

def step (g : Glyph) : Mode → List (Option Glyph) × Mode
  | code => start g
  | slash first =>
    if g.read = some '/' then ([none], lineComment)
    else if g.read = some '*' then ([none], blockComment)
    else (some first :: (start g).1, (start g).2)
  | quoted mark =>
    -- A literal ends with its line at the latest.
    if g.endsLine then ([none], code)
    else ([some g], if g.read = some mark then code
      else if g.read = some '\\' then escaped mark else quoted mark)
  | escaped mark => if g.endsLine then ([none], code) else ([some g], quoted mark)
  | lineComment => if g.endsLine then ([none], code) else ([], lineComment)
  | blockComment => ([], if g.read = some '*' then asterisk else blockComment)
  | asterisk =>
    if g.read = some '/' then ([none], code)
    else ([], if g.read = some '*' then asterisk else blockComment)

/-- What is kept back at the end. -/
def last : Mode → List (Option Glyph)
  | slash first => [some first]
  | _ => []

end Mode

def run : Mode → List Glyph → List (Option Glyph) × Mode
  | mode, [] => ([], mode)
  | mode, g :: rest => ((mode.step g).1 ++ (run (mode.step g).2 rest).1, (run (mode.step g).2 rest).2)

/-- All that is left of a text in that mode. -/
def strip (mode : Mode) (gs : List Glyph) : List (Option Glyph) := (run mode gs).1 ++ (run mode gs).2.last

/-- The words between gaps, of which the first has begun already. -/
def words : List Glyph → List (Option Glyph) → List (List Glyph)
  | word, [] => if word.isEmpty then [] else [word]
  | word, some g :: rest => words (word ++ [g]) rest
  | word, none :: rest => (if word.isEmpty then [] else [word]) ++ words [] rest

/-- The words of a text without its comments. -/
def code (text : String) : List (List Glyph) := words [] (strip .code (glyphs text))

/-- The mode after a text. -/
def modeAfter (text : String) : Mode := (run .code (glyphs text)).2

variable {mode : Mode} {front note text : String} {marks : List (Option Glyph)}

theorem run_append (mode : Mode) (first second : List Glyph) : run mode (first ++ second) =
    ((run mode first).1 ++ (run (run mode first).2 second).1, (run (run mode first).2 second).2) := by
  induction first generalizing mode with
  | nil => rfl
  | cons g rest ih => rw [List.cons_append, run, ih, run, List.append_assoc]

theorem strip_append (mode : Mode) (first second : List Glyph) :
    strip mode (first ++ second) = (run mode first).1 ++ strip (run mode first).2 second := by
  rw [strip, run_append, strip, List.append_assoc]

theorem strip_cons (mode : Mode) (g : Glyph) (rest : List Glyph) :
    strip mode (g :: rest) = (mode.step g).1 ++ strip (mode.step g).2 rest := by
  rw [strip, run, strip, List.append_assoc]

theorem run_lineComment {gs : List Glyph} (oneLine : gs.any Glyph.endsLine = false) :
    run .lineComment gs = ([], .lineComment) := by
  induction gs with
  | nil => rfl
  | cons g rest ih =>
    rw [List.any_cons, Bool.or_eq_false_iff] at oneLine
    simp [run, Mode.step, oneLine.1, ih oneLine.2]

theorem words_append_gap (word : List Glyph) (front rest : List (Option Glyph)) :
    words word (front ++ none :: rest) = words word front ++ words [] rest := by
  induction front generalizing word with
  | nil => rfl
  | cons mark front ih =>
    cases mark with
    | none => rw [List.cons_append, words, ih, words, List.append_assoc]
    | some g => rw [List.cons_append, words, ih, words]

theorem words_gap (rest : List (Option Glyph)) : words [] (none :: rest) = words [] rest := rfl

theorem modeAfter_eq (unescaped : '\\' ∉ front.toList) :
    modeAfter front = (run .code (front.toList.map .plain)).2 := by
  rw [modeAfter, glyphs_of_unescaped unescaped]

/-- After code that is complete, what follows counts by its own words. -/
theorem code_append (unescaped : '\\' ∉ front.toList) (opened : modeAfter front = .code)
    (gap : strip .code (glyphs text) = none :: marks) :
    code (front ++ text) = words [] (run .code (front.toList.map .plain)).1 ++ words [] marks := by
  rw [modeAfter_eq unescaped] at opened
  rw [code, glyphs_append unescaped, strip_append, opened, gap, words_append_gap]

theorem strip_line (rest : String) :
    strip .code (glyphs ("\n" ++ rest)) = none :: strip .code (glyphs rest) := by
  rw [glyphs_append (by decide)]
  exact strip_cons _ _ _

theorem strip_comment (oneLine : breaksLine note = false) (rest : String) :
    strip .code (glyphs ("//" ++ (note ++ ("\n" ++ rest)))) = none :: none :: strip .code (glyphs rest) := by
  have marks : glyphs ("//" ++ (note ++ ("\n" ++ rest))) =
      .plain '/' :: .plain '/' :: (glyphs note ++ .plain '\n' :: glyphs rest) := by
    rw [glyphs_append (by decide), glyphs_line]
    rfl
  rw [marks, strip_cons, strip_cons, show (Mode.code.step (.plain '/')).2 = .slash (.plain '/') from rfl,
    show ((Mode.slash (.plain '/')).step (.plain '/')).2 = .lineComment from rfl, strip_append,
    run_lineComment oneLine, strip_cons]
  rfl

/-- As long as no line ends, the comment goes on. -/
theorem modeAfter_comment (unescaped : '\\' ∉ front.toList) (opened : modeAfter front = .code)
    (oneLine : breaksLine note = false) : modeAfter (front ++ ("//" ++ note)) = .lineComment := by
  have marks : glyphs ("//" ++ note) = [.plain '/', .plain '/'] ++ glyphs note := glyphs_append (by decide) _
  have slashes : (run .code [.plain '/', .plain '/']).2 = .lineComment := rfl
  rw [modeAfter_eq unescaped] at opened
  rw [modeAfter, glyphs_append unescaped, run_append, opened, marks, run_append, slashes,
    run_lineComment oneLine]

/-- A comment up to the end of its line is no code. -/
theorem code_comment (unescaped : '\\' ∉ front.toList) (opened : modeAfter front = .code)
    (oneLine : breaksLine note = false) (rest : String) :
    code (front ++ ("//" ++ (note ++ ("\n" ++ rest)))) = code (front ++ ("\n" ++ rest)) := by
  rw [code_append unescaped opened (strip_comment oneLine rest),
    code_append unescaped opened (strip_line rest), words_gap]

/-- An escape ends a line as the character does for which it stands. No comment begins in a string. -/
example : breaksLine "\\u000a" = true ∧ breaksLine "\\\\u000a" = false ∧
    code "int x; //\\u000aint y;" = code "int x; int y;" ∧
    code "a/* b */\"//\" // c\n" = code "a \"//\"" := by decide

theorem code_line (text : String) : code ("\n" ++ text) = code text := by
  rw [code, strip_line, words_gap, code]

theorem code_blank (unescaped : '\\' ∉ front.toList) (opened : modeAfter front = .code) (rest : String) :
    code (front ++ (" " ++ ("\n" ++ rest))) = code (front ++ ("\n" ++ rest)) := by
  have blank : strip .code (glyphs (" " ++ ("\n" ++ rest))) = none :: none :: strip .code (glyphs rest) := by
    rw [glyphs_append (by decide), ← strip_line rest]
    exact strip_cons _ _ _
  rw [code_append unescaped opened blank, code_append unescaped opened (strip_line rest), words_gap]

end Comments
end Boilerplate.Java
