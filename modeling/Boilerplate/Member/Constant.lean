import Boilerplate.Text.Blank

/-! Generated string constants. -/
namespace Boilerplate

structure Constant where
  identifier : String
  value : String
  comment : Option String
deriving DecidableEq, Repr, Inhabited

namespace Constant

def escape (c : Char) : List Char :=
  if c = '"' then ['\\', '"'] else if c = '\\' then ['\\', '\\'] else [c]

def literalChars (value : List Char) : List Char := '"' :: (value.flatMap escape ++ ['"'])

/-- The value as a string literal. -/
def literal (constant : Constant) : String := String.ofList (literalChars constant.value.toList)

/-- A copy flagged for review: the note follows whatever comment there is. -/
def annotate (constant : Constant) (note : String) : Constant :=
  { constant with
    comment := some (match constant.comment with
      | some comment => comment ++ "; " ++ note
      | none => note) }

/-- An initializer holds the value, with or without quotes. -/
def matchesLiteral (constant : Constant) (initializer : String) : Bool :=
  Text.trim initializer == constant.value || Text.trim initializer == constant.literal

def declaration (constant : Constant) : String :=
  "public static final String " ++ constant.identifier ++ " = " ++ constant.literal ++ ";" ++
    (match constant.comment with
      | some comment => " //" ++ comment
      | none => "") ++ "\n"

end Constant
end Boilerplate
