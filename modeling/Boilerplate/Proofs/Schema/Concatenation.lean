import Boilerplate.Proofs.Identifier

/-! String concatenations of Java: literals and names with plus signs between them, up to the token that
stops them. A text is read character by character into tokens, so what is read of a text put together
from pieces is put together from what is read of the pieces. Literals with escapes are refused, and so
are comments and braces. -/
namespace Boilerplate.Concatenation
open Identifier (IsWord isStart isPart)

inductive Operand where
  | literal (value : String)
  | name (identifier : String)
deriving DecidableEq, Repr

inductive Token where
  | operand (operand : Operand)
  | plus
  | semicolon
  /-- Of calls and assignments. -/
  | mark (c : Char)
deriving DecidableEq, Repr

section Scanning

/-- Between tokens, or within one of which a part has been read. -/
inductive Place where
  | between
  | literal (read : List Char)
  | name (read : List Char)
deriving DecidableEq, Repr

/-- White space of Java. -/
def isGap (c : Char) : Bool := c == ' ' || c == '\t' || c == '\n' || c == '\r' || c == '\x0c'

/-- A character of a literal that stands for itself. -/
def isPlain (c : Char) : Bool := c != '"' && c != '\\' && c != '\n' && c != '\r'

def startToken? (c : Char) : Option (List Token × Place) :=
  if isStart c then some ([], .name [c])
  else if isGap c then some ([], .between)
  else if c == '"' then some ([], .literal [])
  else if c == '+' then some ([.plus], .between)
  else if c == ';' then some ([.semicolon], .between)
  else if ['.', ',', '=', '(', ')'].contains c then some ([.mark c], .between)
  else none

/-- The tokens that end with a character, and the place after it. -/
def step? : Place → Char → Option (List Token × Place)
  | .between, c => startToken? c
  | .literal read, c =>
    if c == '"' then some ([.operand (.literal (String.ofList read))], .between)
    else if isPlain c then some ([], .literal (read ++ [c]))
    else none
  | .name read, c =>
    if isPart c then some ([], .name (read ++ [c]))
    else do
      let (tokens, place) ← startToken? c
      return (.operand (.name (String.ofList read)) :: tokens, place)

def scan? : Place → List Char → Option (List Token × Place)
  | place, [] => some ([], place)
  | place, c :: rest => do
    let (front, next) ← step? place c
    let (more, last) ← scan? next rest
    return (front ++ more, last)

/-- From one place to another a text is read into these tokens. -/
def Reads (place : Place) (text : String) (tokens : List Token) (last : Place) : Prop :=
  scan? place text.toList = some (tokens, last)

instance : Decidable (Reads place text tokens last) :=
  inferInstanceAs (Decidable (scan? place text.toList = some (tokens, last)))

theorem scan?_append {cs ds : List Char} (first : scan? place cs = some (front, next))
    (second : scan? next ds = some (more, last)) :
    scan? place (cs ++ ds) = some (front ++ more, last) := by
  induction cs generalizing place front with
  | nil =>
    cases first
    exact second
  | cons c cs ih =>
    simp only [scan?, Option.bind_eq_bind, Option.bind_eq_some_iff, Option.pure_def] at first
    obtain ⟨⟨tokens, following⟩, one, ⟨others, stop⟩, rest, same⟩ := first
    cases same
    simp [scan?, one, ih rest]

theorem Reads.append (first : Reads place text front next) (second : Reads next rest more last) :
    Reads place (text ++ rest) (front ++ more) last := by
  rw [Reads, String.toList_append]
  exact scan?_append first second

theorem reads_join {text : α → String} {tokens : α → List Token} {as : List α}
    (each : ∀ a ∈ as, Reads .between (text a) (tokens a) .between) :
    Reads .between (String.join (as.map text)) (as.flatMap tokens) .between := by
  induction as with
  | nil => rfl
  | cons a more ih =>
    have later := ih fun other member => each other (List.mem_cons_of_mem _ member)
    rw [List.map_cons, String.join_cons, List.flatMap_cons]
    exact (each a List.mem_cons_self).append later

/-- Within a token, characters that go on with it are added to what has been read. -/
theorem reads_within {within : List Char → Place} {goesOn : Char → Prop}
    (step : ∀ read c, goesOn c → step? (within read) c = some ([], within (read ++ [c])))
    (each : ∀ c ∈ text.toList, goesOn c) (read : List Char) :
    Reads (within read) text [] (within (read ++ text.toList)) := by
  unfold Reads
  generalize text.toList = cs at *
  induction cs generalizing read with
  | nil => simp [scan?]
  | cons c cs ih =>
    have own := step read c (each c List.mem_cons_self)
    have later := ih (read ++ [c]) fun d member => each d (List.mem_cons_of_mem _ member)
    simp [scan?, own, later]

theorem reads_plain (plain : ∀ c ∈ text.toList, isPlain c = true) (read : List Char) :
    Reads (.literal read) text [] (.literal (read ++ text.toList)) := by
  refine reads_within (fun read c own => ?_) plain read
  have quote : (c == '"') = false := by
    simp only [isPlain, Bool.and_eq_true, bne] at own
    simpa using own.1.1.1
  simp [step?, quote, own]

theorem reads_part (word : IsWord text.toList) (read : List Char) :
    Reads (.name read) text [] (.name (read ++ text.toList)) := by
  refine reads_within (fun read c own => ?_) word read
  simp [step?, own]

/-- A name stays open until another character ends it. -/
theorem reads_name {first : Char} (start : isStart first = true) (chars : name.toList = first :: rest)
    (word : IsWord name.toList) : Reads .between name [] (.name name.toList) := by
  rw [chars] at word
  have later : IsWord (String.ofList rest).toList := by
    rw [String.toList_ofList]
    exact fun c member => word c (List.mem_cons_of_mem _ member)
  have read := reads_part later [first]
  rw [Reads, String.toList_ofList] at read
  simp [Reads, chars, scan?, step?, startToken?, start, read]

end Scanning

section Operands

/-- Operands with plus signs between them, and that token after the last. -/
def operands? (stop : Token) : List Token → Option (List Operand)
  | [.operand last, token] => if token = stop then some [last] else none
  | .operand first :: .plus :: rest => (operands? stop rest).map (first :: ·)
  | _ => none

/-- An operand after another one. -/
def continued (operand : Operand) : List Token := [.plus, .operand operand]

theorem operands?_continued (stop : Token) (first : Operand) (more : List Operand) :
    operands? stop (.operand first :: (more.flatMap continued ++ [stop])) = some (first :: more) := by
  induction more generalizing first with
  | nil => exact if_pos rfl
  | cons second more ih => simp [continued, operands?, ih]

def read? (text : String) : Option (List Operand) :=
  match scan? .between text.toList with
  | some (tokens, .between) => operands? .semicolon tokens
  | _ => none

theorem Reads.read? (whole : Reads .between text tokens .between) :
    read? text = operands? .semicolon tokens := by
  unfold Reads at whole
  rw [Concatenation.read?, whole]

example : read? "\"a \" +B+ \"\";" = some [.literal "a ", .name "B", .literal ""] := by decide +kernel

end Operands

section Values
variable (meaning : String → Option String)

def Operand.value? : Operand → Option String
  | literal value => some value
  | name identifier => meaning identifier

/-- The values of the operands in a row. -/
def evaluate? (operands : List Operand) : Option String :=
  (operands.mapM (Operand.value? meaning)).map String.join

variable {meaning}

theorem evaluate?_append {front more : List Operand} (first : evaluate? meaning front = some one)
    (second : evaluate? meaning more = some other) :
    evaluate? meaning (front ++ more) = some (one ++ other) := by
  obtain ⟨values, here, rfl⟩ := Option.map_eq_some_iff.mp first
  obtain ⟨others, later, rfl⟩ := Option.map_eq_some_iff.mp second
  simp [evaluate?, List.mapM_append, here, later, String.join_append]

end Values
end Boilerplate.Concatenation
