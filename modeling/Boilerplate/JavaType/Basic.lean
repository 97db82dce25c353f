import Boilerplate.JavaType.Names

/-! Java types as trees: a base name, type arguments and an array depth. Their text has no blanks
and only qualified names. -/
namespace Boilerplate

structure JavaType where
  base : String
  arguments : List JavaType
  arrayDepth : Nat
deriving Repr, Inhabited

namespace JavaType

/-- The type of a bare name. A well-known simple name is qualified. -/
def named (name : String) : JavaType := ⟨qualify name, [], 0⟩

def object : JavaType := named objectName

def brackets : Nat → List Char
  | 0 => []
  | depth + 1 => '[' :: ']' :: brackets depth

mutual
def chars : JavaType → List Char
  | ⟨base, arguments, depth⟩ => base.toList ++ (argumentChars arguments ++ brackets depth)

def argumentChars : List JavaType → List Char
  | [] => []
  | first :: more => '<' :: (first.chars ++ moreArgumentChars more)

def moreArgumentChars : List JavaType → List Char
  | [] => ['>']
  | next :: more => ',' :: (next.chars ++ moreArgumentChars more)
end

/-- The canonical text. -/
def text (t : JavaType) : String := String.ofList t.chars

/-- The text without type arguments, as a class literal wants it. -/
def erasure (t : JavaType) : String := t.base ++ String.ofList (brackets t.arrayDepth)

def isArray (t : JavaType) : Bool := t.arrayDepth > 0

/-- The bare type of that name, without arguments and not an array. -/
def isExactly (t : JavaType) (name : String) : Bool :=
  t.arrayDepth == 0 && t.arguments.isEmpty && t.base == name

/-- One of the classes of those names, with any arguments, and not an array. -/
def isOneOf (t : JavaType) (names : List String) : Bool :=
  t.arrayDepth == 0 && names.contains t.base

def argument? (t : JavaType) (index : Nat) : Option JavaType := t.arguments[index]?

/-- The type argument at that place, or `Object` where the class is used raw. -/
def argumentOrObject (t : JavaType) (index : Nat) : JavaType := (t.argument? index).getD object

end JavaType
end Boilerplate
