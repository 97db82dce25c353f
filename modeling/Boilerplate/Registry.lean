import Boilerplate.JavaType.Basic
import Boilerplate.Text.Blank

/-! Types of which the host knows more than their names tell: enumerations, Parcelable classes and
Serializable classes. -/
namespace Boilerplate

/-- A set of names, in increasing order. -/
structure NameSet where
  names : List String
  sorted : names.Pairwise (· < ·)

namespace NameSet

theorem eq_of_names_eq {s t : NameSet} (same : s.names = t.names) : s = t := by
  cases s
  cases t
  simp_all

instance : DecidableEq NameSet := fun s t =>
  if same : s.names = t.names then isTrue (eq_of_names_eq same)
  else isFalse fun equal => same (equal ▸ rfl)

def empty : NameSet := ⟨[], .nil⟩

instance : Inhabited NameSet := ⟨empty⟩

def contains (s : NameSet) (name : String) : Bool := s.names.contains name

def insertSorted (name : String) : List String → List String
  | [] => [name]
  | first :: rest =>
    if name < first then name :: first :: rest
    else if first < name then first :: insertSorted name rest
    else first :: rest

theorem mem_insertSorted {name other : String} {names : List String} :
    other ∈ insertSorted name names ↔ other = name ∨ other ∈ names := by
  induction names with
  | nil => simp [insertSorted]
  | cons first rest ih =>
    unfold insertSorted
    split
    · simp
    · split
      · simp [ih, or_left_comm]
      · have same : name = first := String.le_antisymm (by assumption) (by assumption)
        simp [same]

theorem insertSorted_pairwise {name : String} {names : List String}
    (sorted : names.Pairwise (· < ·)) : (insertSorted name names).Pairwise (· < ·) := by
  induction names with
  | nil => simp [insertSorted]
  | cons first rest ih =>
    obtain ⟨below, tail⟩ := List.pairwise_cons.mp sorted
    unfold insertSorted
    split
    · rename_i before
      refine List.pairwise_cons.mpr ⟨fun other member => ?_, sorted⟩
      rcases List.mem_cons.mp member with same | later
      · exact same ▸ before
      · exact String.lt_trans before (below other later)
    · split
      · rename_i after
        refine List.pairwise_cons.mpr ⟨fun other member => ?_, ih tail⟩
        rcases mem_insertSorted.mp member with same | later
        · exact same ▸ after
        · exact below other later
      · exact sorted

def insert (s : NameSet) (name : String) : NameSet :=
  ⟨insertSorted name s.names, insertSorted_pairwise s.sorted⟩

def ofList (names : List String) : NameSet := names.foldl insert empty

def size (s : NameSet) : Nat := s.names.length

end NameSet

structure Registry where
  enums : NameSet
  structured : NameSet
  serializable : NameSet
deriving DecidableEq, Inhabited

namespace Registry

def empty : Registry := ⟨.empty, .empty, .empty⟩

/-- A registered name is kept without blanks around it and qualified. -/
def canonical (name : String) : String := JavaType.qualify (Text.trim name)

def withEnum (r : Registry) (name : String) : Registry :=
  { r with enums := r.enums.insert (canonical name) }

def withStructured (r : Registry) (name : String) : Registry :=
  { r with structured := r.structured.insert (canonical name) }

def withSerializable (r : Registry) (name : String) : Registry :=
  { r with serializable := r.serializable.insert (canonical name) }

/-- The registry of three lists of names. -/
def ofLists (enums structured serializable : List String) : Registry :=
  serializable.foldl withSerializable (structured.foldl withStructured (enums.foldl withEnum empty))

/-- Type arguments do not matter to a registry, but an array is never registered. -/
def isEnum (r : Registry) (type : JavaType) : Bool :=
  !type.isArray && r.enums.contains type.base

/-- `Parcelable` itself counts as registered. -/
def isStructured (r : Registry) (type : JavaType) : Bool :=
  !type.isArray && (type.base == JavaType.parcelableName || r.structured.contains type.base)

def isSerializable (r : Registry) (type : JavaType) : Bool :=
  !type.isArray && r.serializable.contains type.base

def size (r : Registry) : Nat := r.enums.size + r.structured.size + r.serializable.size

def isEmpty (r : Registry) : Bool := r.size == 0

end Registry
end Boilerplate
