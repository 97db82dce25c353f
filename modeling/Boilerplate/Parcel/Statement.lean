/-! The fragment of Java in which parcel code is written, and its text. -/
namespace Boilerplate.Parcel

inductive Expr where
  /-- A variable, a class name or a constant. -/
  | word (text : String)
  /-- A field of the object at hand. -/
  | this (field : String)
  | call (receiver : Expr) (method : String) (arguments : List Expr)
  | new (type : String) (arguments : List Expr)
  | cast (type : String) (value : Expr)
  | equal (left right : Expr)
  | unequal (left right : Expr)
  | choose (condition first second : Expr)
  | item (array index : Expr)
deriving Repr, Inhabited

inductive Statement where
  | run (value : Expr)
  | declare (type name : String) (value : Expr)
  | assign (field : String) (value : Expr)
deriving Repr, Inhabited

namespace Expr

mutual
def text : Expr → String
  | word text => text
  | this field => "this." ++ field
  | call receiver method arguments =>
    receiver.text ++ "." ++ method ++ "(" ++ argumentText arguments ++ ")"
  | new type arguments => "new " ++ type ++ "(" ++ argumentText arguments ++ ")"
  | cast type value => "(" ++ type ++ ") " ++ value.text
  | equal left right => left.text ++ " == " ++ right.text
  | unequal left right => left.text ++ " != " ++ right.text
  | choose condition first second =>
    condition.text ++ " ? " ++ first.text ++ " : " ++ second.text
  | item array index => array.text ++ "[" ++ index.text ++ "]"

def argumentText : List Expr → String
  | [] => ""
  | [last] => last.text
  | first :: more => first.text ++ ", " ++ argumentText more
end

def isWord (name : String) : Expr → Bool
  | word text => text == name
  | _ => false

mutual
/-- The methods called on the variable of that name, from left to right. -/
def callsOn (name : String) : Expr → List String
  | word _ => []
  | this _ => []
  | call receiver method arguments =>
    receiver.callsOn name ++
      ((if receiver.isWord name then [method] else []) ++ argumentCallsOn name arguments)
  | new _ arguments => argumentCallsOn name arguments
  | cast _ value => value.callsOn name
  | equal left right => left.callsOn name ++ right.callsOn name
  | unequal left right => left.callsOn name ++ right.callsOn name
  | choose condition first second =>
    condition.callsOn name ++ (first.callsOn name ++ second.callsOn name)
  | item array index => array.callsOn name ++ index.callsOn name

def argumentCallsOn (name : String) : List Expr → List String
  | [] => []
  | first :: more => first.callsOn name ++ argumentCallsOn name more
end

/-- The class loader of a class, given by the text of its literal. -/
def classLoader (erasure : String) : Expr := call (word (erasure ++ ".class")) "getClassLoader" []

end Expr

namespace Statement

def text : Statement → String
  | run value => value.text ++ ";"
  | declare type name value => type ++ " " ++ name ++ " = " ++ value.text ++ ";"
  | assign field value => "this." ++ field ++ " = " ++ value.text ++ ";"

def value : Statement → Expr
  | run value => value
  | declare _ _ value => value
  | assign _ value => value

/-- The methods called on the variable of that name. -/
def callsOn (name : String) (s : Statement) : List String := s.value.callsOn name

end Statement
end Boilerplate.Parcel
