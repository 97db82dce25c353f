import Boilerplate.Document.JsonPrinter
import Boilerplate.Document.JsonReader

/-! Quoted text and numbers in JSON. What is written of them is read back, whatever may follow. -/
namespace Boilerplate.Json

section Quotes

/-- What the escape of a character is read as. -/
def piece (c : Char) : Piece :=
  if c.toNat < 32 ∧ c ∉ ['\x08', '\x0c', '\n', '\r', '\t'] then .unit c.toNat else .char c

theorem number?_hexChars : ∀ n < 32,
    Text.Hexadecimal.number? ['0', '0', hexChar (n / 16), hexChar (n % 16)] = some n := by
  decide

theorem readPieces_unit (small : n < 32) (rest : List Char) :
    readPieces ('\\' :: 'u' :: '0' :: '0' :: hexChar (n / 16) :: hexChar (n % 16) :: rest) = do
      let (pieces, rest) ← readPieces rest
      return (.unit n :: pieces, rest) := by
  change (Text.Hexadecimal.number? ['0', '0', hexChar (n / 16), hexChar (n % 16)]).bind _ = _
  rw [number?_hexChars n small]
  rfl

theorem readPieces_char (quote : c ≠ '"') (slash : c ≠ '\\') (large : ¬c.toNat < 32)
    (rest : List Char) : readPieces (c :: rest) = do
      let (pieces, rest) ← readPieces rest
      return (.char c :: pieces, rest) := by
  rw [readPieces.eq_def]
  split
  · contradiction
  · rename_i same
    exact absurd (List.cons.inj same).1 quote
  · rename_i same
    exact absurd (List.cons.inj same).1 slash
  · rename_i same
    exact absurd (List.cons.inj same).1 slash
  · rename_i same
    obtain ⟨rfl, rfl⟩ := List.cons.inj same
    rw [if_neg large]

theorem readPieces_escape (c : Char) (rest : List Char) : readPieces (escape c ++ rest) = do
    let (pieces, rest) ← readPieces rest
    return (piece c :: pieces, rest) := by
  unfold escape
  split; · subst_vars; rfl
  split; · subst_vars; rfl
  split; · subst_vars; rfl
  split; · subst_vars; rfl
  split; · subst_vars; rfl
  split; · subst_vars; rfl
  split; · subst_vars; rfl
  split
  · rename_i control
    have read : piece c = .unit c.toNat := by
      simp [piece, *]
    rw [read]
    exact readPieces_unit control rest
  · rename_i large
    rw [piece, if_neg fun small => large small.1]
    exact readPieces_char ‹_› ‹_› large rest

theorem readPieces_quoted (cs rest : List Char) :
    readPieces (cs.flatMap escape ++ '"' :: rest) = some (cs.map piece, rest) := by
  induction cs with
  | nil => rfl
  | cons c cs ih =>
    rw [List.flatMap_cons, List.append_assoc, readPieces_escape, ih]
    rfl

theorem joinPieces_unit (small : n < 32) (rest : List Piece) :
    joinPieces (.unit n :: rest) = (joinPieces rest).map (Char.ofNat n :: ·) := by
  have high : isHighSurrogate n = false := by
    simp only [isHighSurrogate, Bool.and_eq_false_imp, decide_eq_true_eq]
    omega
  have low : isLowSurrogate n = false := by
    simp only [isLowSurrogate, Bool.and_eq_false_imp, decide_eq_true_eq]
    omega
  rw [joinPieces.eq_def]
  split
  · contradiction
  · rename_i same
    cases same
  · rename_i same
    cases same
    simp [high, low]
  · rename_i same
    cases same
    simp [high, low]

theorem joinPieces_piece (cs : List Char) : joinPieces (cs.map piece) = some cs := by
  induction cs with
  | nil => rfl
  | cons c cs ih =>
    rw [List.map_cons, piece]
    split
    · rename_i control
      rw [joinPieces_unit control.1, ih, Option.map_some, Char.ofNat_toNat]
    · rw [joinPieces, ih, Option.map_some]

theorem textOf_piece (s : String) : textOf (s.toList.map piece) = .text s := by
  rw [textOf, joinPieces_piece]
  exact congrArg Document.text String.ofList_toList

end Quotes

section Numbers

/-- A number goes on with this character. -/
def goesOn (c : Char) : Bool := c.isDigit || c == '.' || c == 'e' || c == 'E'

/-- No number goes on into this text. -/
def EndsNumber (cs : List Char) : Prop := ∀ c, cs.head? = some c → goesOn c = false

theorem endsNumber_cons (mark : goesOn c = false) (cs : List Char) : EndsNumber (c :: cs) := by
  intro d first
  obtain rfl : c = d := by simpa using first
  exact mark

/-- Only zero is written with a zero in front. -/
theorem head?_toDigits (positive : 0 < n) : (Nat.toDigits 10 n).head? ≠ some '0' := by
  induction n using Nat.base_induction 10 (by decide) with
  | single m small =>
    rw [Nat.toDigits_of_lt_base small]
    simp
    omega
  | digit m k last high ih =>
    rw [← Nat.toDigits_append_toDigits (by decide) high last]
    obtain ⟨d, ds, shape⟩ := List.exists_cons_of_ne_nil (Nat.toDigits_ne_nil (n := m) (b := 10))
    have first := ih high
    rw [shape] at first ⊢
    exact first

theorem readMarkedDigits_none {isMark : Char → Bool} (marks : ∀ c, isMark c = true → goesOn c = true)
    (ends : EndsNumber rest) (maySign : Bool) :
    readMarkedDigits isMark maySign rest = some ([], rest) := by
  cases rest with
  | nil => rfl
  | cons c rest =>
    have plain : isMark c = false := by
      refine Bool.eq_false_iff.mpr fun mark => ?_
      exact absurd ((ends c rfl).symm.trans (marks c mark)) (by decide)
    rw [readMarkedDigits.eq_def]
    simp [plain]

theorem digitsValue_toDigits (n : Nat) : digitsValue (Nat.toDigits 10 n) = n :=
  Nat.ofDigitChars_toDigits (by decide) (by decide)

/-- Fewer digits than the bound has are below it. -/
theorem isDouble_of_length (few : digits.length < 309) : isDouble digits 0 = true := by
  have fewer := (List.dropWhile_sublist (l := digits) (· == '0')).length_le
  unfold isDouble
  simp
  omega

theorem digits_allowed (n : Nat) : ((Nat.toDigits 10 n).isEmpty ||
    ((Nat.toDigits 10 n).head? == some '0' && decide ((Nat.toDigits 10 n).length > 1))) = false := by
  rcases Nat.eq_zero_or_pos n with rfl | positive
  · rfl
  · simp [head?_toDigits positive]

theorem isDigit_of_mem_toDigits : ∀ c ∈ Nat.toDigits 10 n, c.isDigit = true := fun _ member =>
  Nat.isDigit_of_mem_toDigits (by decide) (by decide) member

theorem EndsNumber.isDigit (ends : EndsNumber rest) :
    ∀ c, rest.head? = some c → c.isDigit = false := by
  intro c first
  have plain := ends c first
  simp only [goesOn, Bool.or_eq_false_iff] at plain
  exact plain.1.1.1

theorem takeWhile_toDigits (ends : EndsNumber rest) :
    (Nat.toDigits 10 n ++ rest).takeWhile Char.isDigit = Nat.toDigits 10 n := by
  rw [List.takeWhile_append_of_pos isDigit_of_mem_toDigits]
  cases rest with
  | nil => simp
  | cons c rest => simp [ends.isDigit c rfl]

theorem dropWhile_toDigits (ends : EndsNumber rest) :
    (Nat.toDigits 10 n ++ rest).dropWhile Char.isDigit = rest := by
  rw [List.dropWhile_append_of_pos isDigit_of_mem_toDigits]
  cases rest with
  | nil => rfl
  | cons c rest => simp [ends.isDigit c rfl]

theorem readNumber_toDigits (short : (Nat.toDigits 10 n).length < 309) (ends : EndsNumber rest) :
    readNumber (Nat.toDigits 10 n ++ rest) = some (.natural n, rest) := by
  have finite : isDouble (Nat.toDigits 10 n ++ []) (exponentValue [] - ([] : List Char).length) = true := by
    rw [List.append_nil]
    exact isDouble_of_length short
  unfold readNumber
  split
  rename_i unsigned
  split at unsigned
  · rename_i minus
    obtain ⟨d, ds, shape⟩ := List.exists_cons_of_ne_nil (Nat.toDigits_ne_nil (n := n) (b := 10))
    have digit := isDigit_of_mem_toDigits (n := n) d (shape ▸ List.mem_cons_self)
    rw [shape, List.cons_append] at minus
    rw [(List.cons.inj minus).1] at digit
    cases digit
  · cases unsigned
    dsimp only
    rw [takeWhile_toDigits ends, dropWhile_toDigits ends, digits_allowed,
      readMarkedDigits_none (by simp [goesOn]) ends]
    simp only [Bool.false_eq_true, if_false, Option.bind_eq_bind, Option.bind_some]
    rw [readMarkedDigits_none (by simp [goesOn]) ends]
    simp only [Option.bind_some, List.drop_nil, finite, Bool.not_true, Bool.false_eq_true, if_false,
      digitsValue_toDigits]
    rfl

end Numbers
end Boilerplate.Json
