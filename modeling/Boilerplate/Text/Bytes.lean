/-! Places in a text counted in bytes. A cut succeeds only between characters. -/
namespace Boilerplate.Text

def byteLength : List Char → Nat
  | [] => 0
  | c :: cs => c.utf8Size + byteLength cs

/-- Where the rest of a text begins. -/
def byteOffset (text rest : List Char) : Nat := byteLength text - byteLength rest

/-- The first bytes of a text, and what follows them. -/
def splitAtByte? : Nat → List Char → Option (List Char × List Char)
  | 0, cs => some ([], cs)
  | _ + 1, [] => none
  | n + 1, c :: cs =>
    if c.utf8Size ≤ n + 1 then
      (splitAtByte? (n + 1 - c.utf8Size) cs).map fun parts => (c :: parts.1, parts.2)
    else none

/-- The text between two places. -/
def between? (start stop : Nat) (cs : List Char) : Option (List Char) := do
  let (_, rest) ← splitAtByte? start cs
  let (part, _) ← splitAtByte? (stop - start) rest
  return part

theorem byteLength_toList (text : String) : byteLength text.toList = text.utf8ByteSize := by
  have whole (cs : List Char) : byteLength cs = (String.ofList cs).utf8ByteSize := by
    induction cs with
    | nil => rfl
    | cons c cs ih =>
      rw [byteLength, ih, ← List.singleton_append, String.ofList_append, String.utf8ByteSize_append,
        ← String.singleton_eq_ofList, String.utf8ByteSize_singleton]
  rw [whole, String.ofList_toList]

theorem length_le_byteLength (cs : List Char) : cs.length ≤ byteLength cs := by
  induction cs with
  | nil => exact Nat.le_refl 0
  | cons c cs ih =>
    have positive := c.utf8Size_pos
    simp only [List.length_cons, byteLength]
    omega

/-- A byte for each character. -/
theorem byteLength_eq_length_iff {cs : List Char} :
    byteLength cs = cs.length ↔ ∀ c ∈ cs, c.val ≤ 127 := by
  induction cs with
  | nil => simp [byteLength]
  | cons c cs ih =>
    have positive := c.utf8Size_pos
    have others := length_le_byteLength cs
    have parts : byteLength (c :: cs) = (c :: cs).length ↔ c.utf8Size = 1 ∧ byteLength cs = cs.length := by
      simp only [List.length_cons, byteLength]
      omega
    rw [parts, ih, List.forall_mem_cons, Char.utf8Size_eq_one_iff]

end Boilerplate.Text
