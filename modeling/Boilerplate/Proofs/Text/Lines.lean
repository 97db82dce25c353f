import Boilerplate.Proofs.Identifier
import Mathlib.Data.List.Basic

/-! Texts as a reader takes them apart: into lines, and a line from its front into known words and
names. A text that was put together from such parts is taken apart into them. -/
namespace Boilerplate.Text
open Identifier (IsWord EndsWord isPart)

section Lines
variable {line : String}

def lines (text : String) : List String := (text.toList.splitOn '\n').map String.ofList

/-- The lines, each with its line break. -/
def unlines (texts : List String) : String := String.join (texts.map (· ++ "\n"))

def OneLine (text : String) : Prop := '\n' ∉ text.toList

instance : DecidablePred OneLine := fun text => inferInstanceAs (Decidable ('\n' ∉ text.toList))

theorem lines_append (text rest : String) : lines (text ++ ("\n" ++ rest)) = lines text ++ lines rest := by
  unfold lines
  rw [String.toList_append, String.toList_append, show "\n".toList = ['\n'] from rfl,
    List.singleton_append, List.splitOn_append_cons_self, List.map_append]

theorem lines_of_oneLine (oneLine : OneLine line) : lines line = [line] := by
  rw [lines, List.splitOn_eq_singleton oneLine, List.map_singleton, String.ofList_toList]

theorem lines_unlines_append {texts : List String} (each : ∀ text ∈ texts, OneLine text)
    (rest : String) : lines (unlines texts ++ rest) = texts ++ lines rest := by
  induction texts with
  | nil => simp [unlines]
  | cons text more ih =>
    have later := ih fun other member => each other (List.mem_cons_of_mem _ member)
    have split : unlines (text :: more) ++ rest = text ++ ("\n" ++ (unlines more ++ rest)) := by
      simp [unlines, String.append_assoc]
    rw [split, lines_append, lines_of_oneLine (each text List.mem_cons_self), later]
    rfl

theorem lines_unlines {texts : List String} (each : ∀ text ∈ texts, OneLine text) :
    lines (unlines texts) = texts ++ [""] := by
  have read := lines_unlines_append each ""
  rwa [String.append_empty] at read

theorem unlines_append (first second : List String) :
    unlines (first ++ second) = unlines first ++ unlines second := by
  rw [unlines, List.map_append, String.join_append]
  rfl

/-- Line by line, a text ends with a line break. -/
theorem unlines_lines (text : String) : unlines (lines text) = text ++ "\n" := by
  have whole : ['\n'].intercalate (text.toList.splitOn '\n') = text.toList :=
    List.intercalate_splitOn '\n'
  have some := List.splitOn_ne_nil '\n' text.toList
  apply String.toList_injective
  rw [String.toList_append, ← whole, lines, unlines, String.toList_join, List.map_map, List.flatMap_map]
  generalize text.toList.splitOn '\n' = parts at some
  induction parts with
  | nil => exact absurd rfl some
  | cons part more ih =>
    cases more with
    | nil => simp
    | cons next more =>
      rw [List.flatMap_cons, ih (List.cons_ne_nil next more), List.intercalate_cons_cons]
      simp

theorem join_eq_unlines {α : Type} {text : α → String} {lines : α → List String}
    (each : ∀ a, text a = unlines (lines a)) (as : List α) :
    String.join (as.map text) = unlines (as.flatMap lines) := by
  induction as with
  | nil => rfl
  | cons a more ih =>
    rw [List.map_cons, String.join_cons, ih, each, List.flatMap_cons, unlines_append]

theorem oneLine_append_iff : OneLine (first ++ second) ↔ OneLine first ∧ OneLine second := by
  simp [OneLine]

theorem oneLine_of_isWord (word : IsWord name.toList) : OneLine name := by
  intro line
  have part := word '\n' line
  exact absurd part (by decide)

end Lines

section Words
variable {word text rest name : String}

/-- What follows a word at the front. -/
def after? (word text : String) : Option String :=
  (word.toList.isPrefixOf? text.toList).map String.ofList

/-- What stands before a word at the end. -/
def before? (word text : String) : Option String :=
  (word.toList.isSuffixOf? text.toList).map String.ofList

/-- The name at the front, and what follows it. -/
def takeName (text : String) : String × String :=
  (String.ofList (text.toList.takeWhile isPart), String.ofList (text.toList.dropWhile isPart))

theorem after?_append (word rest : String) : after? word (word ++ rest) = some rest := by
  rw [after?, String.toList_append, List.isPrefixOf?_eq_some_iff_append_eq.mpr rfl, Option.map_some,
    String.ofList_toList]

theorem append_of_after? (found : after? word text = some rest) : text = word ++ rest := by
  obtain ⟨tail, start, rfl⟩ := Option.map_eq_some_iff.mp found
  apply String.toList_injective
  rw [String.toList_append, String.toList_ofList, List.isPrefixOf?_eq_some_iff_append_eq.mp start]

theorem before?_append (front word : String) : before? word (front ++ word) = some front := by
  rw [before?, String.toList_append, List.isSuffixOf?_eq_some_iff_append_eq.mpr rfl, Option.map_some,
    String.ofList_toList]

theorem takeName_append (word : IsWord name.toList) (rest : String) (ends : EndsWord rest.toList) :
    takeName (name ++ rest) = (name, rest) := by
  have taken := word.takeWhile ends
  have left : (name.toList ++ rest.toList).dropWhile isPart = rest.toList := by
    have whole := List.takeWhile_append_dropWhile (p := isPart) (l := name.toList ++ rest.toList)
    rw [taken] at whole
    exact List.append_cancel_left whole
  rw [takeName, String.toList_append, taken, left, String.ofList_toList, String.ofList_toList]

end Words
end Boilerplate.Text
