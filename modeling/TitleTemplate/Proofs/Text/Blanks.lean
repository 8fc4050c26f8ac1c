import Mathlib.Data.List.TakeWhile
import TitleTemplate.Text.CharSet

/-!
White space around texts. What is skipped is white space, what is left begins with none, and what
is written between white space is found by skipping.
-/
namespace TitleTemplate

def AllBlank (cs : List Char) : Prop := ∀ c ∈ cs, isBlank c = true

variable {cs text rest : List Char}

theorem while_taken {p : Char → Bool} (all : ∀ c ∈ cs, p c = true)
    (ends : ∀ c ∈ rest.head?, p c = false) :
    (cs ++ rest).takeWhile p = cs ∧ (cs ++ rest).dropWhile p = rest := by
  rw [List.takeWhile_append_of_pos all, List.dropWhile_append_of_pos all]
  cases rest with
  | nil => exact ⟨List.append_nil cs, rfl⟩
  | cons c rest =>
    have stop : ¬p c = true := by simp [ends c rfl]
    rw [List.takeWhile_cons_of_neg stop, List.dropWhile_cons_of_neg stop, List.append_nil]
    exact ⟨rfl, rfl⟩

theorem head_skipBlanks (cs : List Char) : ∀ c ∈ (skipBlanks cs).head?, isBlank c = false := by
  intro c first
  have stops := List.head?_dropWhile_not isBlank cs
  rw [← skipBlanks, Option.mem_def.1 first] at stops
  exact stops

theorem skipBlanks_split (cs : List Char) :
    ∃ before, cs = before ++ skipBlanks cs ∧ AllBlank before :=
  ⟨_, List.takeWhile_append_dropWhile.symm, fun _ => List.mem_takeWhile_imp⟩

theorem skipBlanks_append {before : List Char} (blank : AllBlank before)
    (first : ∀ c ∈ cs.head?, isBlank c = false) : skipBlanks (before ++ cs) = cs :=
  (while_taken blank first).2

theorem allBlank_append {a b : List Char} (first : AllBlank a) (second : AllBlank b) :
    AllBlank (a ++ b) := fun c member =>
  (List.mem_append.1 member).elim (first c) (second c)

theorem allBlank_reverse (blank : AllBlank cs) : AllBlank cs.reverse :=
  fun c member => blank c (List.mem_reverse.1 member)

theorem trimBlanks_split (cs : List Char) :
    ∃ before after, cs = before ++ (trimBlanks cs ++ after) ∧ AllBlank before ∧ AllBlank after ∧
      (∀ c ∈ (trimBlanks cs).head?, isBlank c = false) ∧
      ∀ c ∈ (trimBlanks cs).getLast?, isBlank c = false := by
  obtain ⟨before, whole, blankBefore⟩ := skipBlanks_split cs
  obtain ⟨after, reversed, blankAfter⟩ := skipBlanks_split (skipBlanks cs).reverse
  have skipped : skipBlanks cs = trimBlanks cs ++ after.reverse := by
    rw [trimBlanks, ← List.reverse_append, ← reversed, List.reverse_reverse]
  refine ⟨before, after.reverse, skipped ▸ whole, blankBefore, allBlank_reverse blankAfter, ?_, ?_⟩
  · intro c first
    refine head_skipBlanks cs c ?_
    rw [skipped, List.head?_append, Option.mem_def.1 first]
    rfl
  · intro c last
    rw [trimBlanks, List.getLast?_reverse] at last
    exact head_skipBlanks _ c last

theorem trimBlanks_around {before after : List Char} (blankBefore : AllBlank before)
    (blankAfter : AllBlank after) (first : ∀ c ∈ text.head?, isBlank c = false)
    (last : ∀ c ∈ text.getLast?, isBlank c = false) (some : text ≠ []) :
    trimBlanks (before ++ (text ++ after)) = text := by
  have front : ∀ c ∈ (text ++ after).head?, isBlank c = false := by
    obtain ⟨c, text, rfl⟩ := List.exists_cons_of_ne_nil some
    exact first
  rw [trimBlanks, skipBlanks_append blankBefore front, List.reverse_append,
    skipBlanks_append (allBlank_reverse blankAfter), List.reverse_reverse]
  rwa [List.head?_reverse]

end TitleTemplate
