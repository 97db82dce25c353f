import Boilerplate.Proofs.Schema.Concatenation

/-! The warning on unknown columns. Its tag is written into the code as it stands, so the code is read
as a list of actions: warnings, and fields that are assigned. Neither does more than it says, since all
values in it are names and literals; code with calls in its values is refused. -/
namespace Boilerplate.Schema
open Concatenation
open Identifier (isLegal)

section Actions

/-- What a statement does. -/
inductive Action where
  | assigns (field : String) (value : Operand)
  | warns (tag : List Token) (message : List Operand)
deriving DecidableEq, Repr

/-- A name, after the names that qualify it. -/
def isNames : List Token → Bool
  | [.operand (.name last)] => isLegal last
  | .operand (.name first) :: .mark '.' :: more => isLegal first && isNames more
  | _ => false

def isTag : List Token → Bool
  | [.operand (.literal _)] => true
  | tokens => isNames tokens

/-- `this.field = value` -/
def readAssignment (statement : List Token) : Option Action :=
  match [.operand (.name "this"), .mark '.'].isPrefixOf? statement with
  | some [.operand (.name field), .mark '=', .operand value] => some (.assigns field value)
  | _ => none

/-- `android.util.Log.w(` -/
def warningCall : List Token :=
  [.operand (.name "android"), .mark '.', .operand (.name "util"), .mark '.', .operand (.name "Log"),
   .mark '.', .operand (.name "w"), .mark '(']

/-- The call, a tag, and a message up to the end of the call. -/
def readWarning (statement : List Token) : Option Action := do
  let arguments ← warningCall.isPrefixOf? statement
  let tag := arguments.takeWhile (· != .mark ',')
  let message ← [Token.mark ','].isPrefixOf? (arguments.dropWhile (· != .mark ','))
  if isTag tag then (operands? (.mark ')') message).map (.warns tag) else none

/-- The statements of a text, each with a semicolon after it. -/
def readStatements (tokens : List Token) : Option (List Action) :=
  let statements := tokens.splitOn .semicolon
  if statements.getLast? = some [] then
    statements.dropLast.mapM fun statement => readAssignment statement <|> readWarning statement
  else none

def readActions (code : String) : Option (List Action) :=
  match scan? .between code.toList with
  | some (tokens, .between) => readStatements tokens
  | _ => none

variable {statement tag tokens : List Token} {code : String}

theorem readActions_of_reads (whole : Reads .between code tokens .between) :
    readActions code = readStatements tokens := by
  unfold Reads at whole
  rw [Schema.readActions, whole]

theorem readStatements_singleton (one : .semicolon ∉ statement) :
    readStatements (statement ++ [.semicolon]) =
      (readAssignment statement <|> readWarning statement).map ([·]) := by
  have pieces : (statement ++ [Token.semicolon]).splitOn .semicolon = [statement, []] := by
    rw [List.splitOn_append_cons_self_of_not_mem one, List.splitOn_nil]
  rw [readStatements, pieces]
  simp only [List.getLast?_cons_cons, List.getLast?_singleton, if_true, List.dropLast, List.mapM_cons,
    List.mapM_nil]
  cases readAssignment statement <|> readWarning statement <;> rfl

theorem not_mem_of_isNames {token : Token} (names : isNames tag = true) (member : token ∈ tag) :
    token ≠ .mark ',' ∧ token ≠ .semicolon := by
  induction tag using isNames.induct with
  | case1 last =>
    obtain rfl := List.mem_singleton.mp member
    simp
  | case2 first more ih =>
    rw [isNames, Bool.and_eq_true] at names
    simp only [List.mem_cons] at member
    rcases member with rfl | rfl | later
    · simp
    · simp
    · exact ih names.2 later
  | case3 => simp_all [isNames]

theorem not_mem_of_isTag {token : Token} (operand : isTag tag = true) (member : token ∈ tag) :
    token ≠ .mark ',' ∧ token ≠ .semicolon := by
  unfold isTag at operand
  split at operand
  · obtain rfl := List.mem_singleton.mp member
    simp
  · exact not_mem_of_isNames operand member

theorem readWarning_call (operand : isTag tag = true) (message : List Token) :
    readWarning (warningCall ++ (tag ++ .mark ',' :: message)) =
      (operands? (.mark ')') message).map (.warns tag) := by
  have inside : ∀ token ∈ tag, (token != .mark ',') = true := fun token member =>
    bne_iff_ne.mpr (not_mem_of_isTag operand member).1
  have call : warningCall.isPrefixOf? (warningCall ++ (tag ++ .mark ',' :: message)) =
      some (tag ++ .mark ',' :: message) := List.isPrefixOf?_eq_some_iff_append_eq.mpr rfl
  have front : (tag ++ .mark ',' :: message).takeWhile (· != .mark ',') = tag := by
    rw [List.takeWhile_append_of_pos inside]
    simp
  have rest : (tag ++ .mark ',' :: message).dropWhile (· != .mark ',') = .mark ',' :: message := by
    rw [List.dropWhile_append_of_pos inside]
    simp
  rw [readWarning, call]
  simp only [Option.bind_eq_bind, Option.bind_some, front, rest, operand, if_true]
  rfl

end Actions

section Warning
variable {logTag : String} {tag : List Token}

/-- The code for a column that no field has. -/
def warning (logTag : String) : String :=
  "            android.util.Log.w(" ++ (logTag ++ ", \"Unknown column name: \" + colname);\n")

theorem warning_eq_line (logTag : String) : ∃ line, warning logTag = line ++ "\n" := by
  refine ⟨"            android.util.Log.w(" ++ (logTag ++ ", \"Unknown column name: \" + colname);"), ?_⟩
  unfold warning
  rw [String.append_assoc, String.append_assoc]
  rfl

/-- What the warning says. -/
def unknownColumn : List Operand := [.literal "Unknown column name: ", .name "colname"]

/-- The tag is an operand with these tokens. A comma comes after it, which ends a name. -/
structure TagReads (logTag : String) (tag : List Token) : Prop where
  reads : Reads .between (logTag ++ ",") (tag ++ [.mark ',']) .between
  operand : isTag tag = true

/-- What comes after the tag. -/
def warningTail : List Token :=
  [.operand (.literal "Unknown column name: "), .plus, .operand (.name "colname"), .mark ')']

/-- Under a tag that is an operand, the code warns and does nothing else. -/
theorem readActions_warning (reads : TagReads logTag tag) :
    readActions (warning logTag) = some [.warns tag unknownColumn] := by
  have front : Reads .between "            android.util.Log.w(" warningCall .between := by
    decide +kernel
  have back : Reads .between " \"Unknown column name: \" + colname);\n" (warningTail ++ [.semicolon])
      .between := by decide +kernel
  have comma : ", \"Unknown column name: \" + colname);\n" =
      "," ++ " \"Unknown column name: \" + colname);\n" := by decide +kernel
  have text : warning logTag = "            android.util.Log.w(" ++
      ((logTag ++ ",") ++ " \"Unknown column name: \" + colname);\n") := by
    unfold warning
    rw [comma, String.append_assoc]
  have shape : warningCall ++ ((tag ++ [.mark ',']) ++ (warningTail ++ [.semicolon])) =
      warningCall ++ (tag ++ .mark ',' :: warningTail) ++ [.semicolon] := by
    simp only [List.append_assoc, List.cons_append, List.nil_append]
  have one : .semicolon ∉ warningCall ++ (tag ++ .mark ',' :: warningTail) := by
    simp only [List.mem_append, not_or]
    exact ⟨by decide, fun member => (not_mem_of_isTag reads.operand member).2 rfl, by decide⟩
  rw [text, readActions_of_reads (front.append (reads.reads.append back)), shape,
    readStatements_singleton one, readWarning_call reads.operand]
  rfl

/-- A tag is meant to be an identifier, which is an operand. -/
theorem tagReads_of_isLegal (legal : isLegal logTag = true) :
    TagReads logTag [.operand (.name logTag)] := by
  obtain ⟨first, rest, chars, start, _⟩ := (Identifier.isLegal_iff.mp legal).chars
  have name := reads_name start chars (Identifier.isWord_of_isLegal legal)
  have comma (read : List Char) :
      Reads (.name read) "," [.operand (.name (String.ofList read)), .mark ','] .between := rfl
  have whole := name.append (comma logTag.toList)
  rw [String.ofList_toList] at whole
  exact ⟨whole, legal⟩

end Warning
end Boilerplate.Schema
