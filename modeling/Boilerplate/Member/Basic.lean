/-! Members of a class and what identifies them. A snapshot is what a class declares at one time, in
order. -/
namespace Boilerplate

/-- A declared field. The literal is its initializer, when that is a string. -/
structure Declaration where
  identifier : String
  literal : Option String
  text : Option String
deriving DecidableEq, Repr, Inhabited

/-- A declared method or constructor. -/
structure Method where
  name : String
  parameters : List String
  text : Option String
deriving DecidableEq, Repr, Inhabited

inductive Member where
  | field (d : Declaration)
  | method (m : Method)
deriving DecidableEq, Repr

/-- Fields are identified by name, methods by name and parameter types. -/
inductive MemberKey where
  | field (name : String)
  | method (name : String) (parameters : List String)
deriving DecidableEq, Repr

namespace MemberKey

def name : MemberKey → String
  | field name => name
  | method name _ => name

def shown : MemberKey → String
  | field name => name
  | method name parameters => name ++ "(" ++ String.intercalate "," parameters ++ ")"

end MemberKey

namespace Member

def key : Member → MemberKey
  | field d => .field d.identifier
  | method m => .method m.name m.parameters

def text? : Member → Option String
  | field d => d.text
  | method m => m.text

def declaration? : Member → Option Declaration
  | field d => some d
  | method _ => none

end Member

structure Snapshot where
  members : List Member
  interfaces : List String
deriving DecidableEq, Repr

namespace Snapshot

def empty : Snapshot := ⟨[], []⟩

instance : Inhabited Snapshot := ⟨empty⟩

/-- The place of the first member under a key. -/
def position? (snapshot : Snapshot) (key : MemberKey) : Option Nat :=
  snapshot.members.findIdx? fun member => member.key == key

def contains (snapshot : Snapshot) (key : MemberKey) : Bool :=
  snapshot.members.any fun member => member.key == key

def implements (snapshot : Snapshot) (interface : String) : Bool :=
  snapshot.interfaces.contains interface

def declarations (snapshot : Snapshot) : List Declaration :=
  snapshot.members.filterMap Member.declaration?

/-- The class that holds just these declarations. -/
def ofDeclarations (declarations : List Declaration) : Snapshot :=
  ⟨declarations.map .field, []⟩

end Snapshot
end Boilerplate
