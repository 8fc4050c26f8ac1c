import Mathlib.Data.List.Infix
import TitleTemplate.Text.Search

/-!
Dividing a text at a character and putting the parts together again undo each other, as long as
there is a part and no part holds the character. The last part is what the text ends with.
-/
namespace TitleTemplate

theorem splitAtChar_ne_nil (c : Char) (cs : List Char) : splitAtChar c cs ≠ [] := by
  induction cs with
  | nil => simp [splitAtChar]
  | cons d cs ih =>
    unfold splitAtChar
    split
    · simp
    · split <;> simp

theorem intercalate_splitAtChar (c : Char) (cs : List Char) :
    [c].intercalate (splitAtChar c cs) = cs := by
  induction cs with
  | nil => simp [splitAtChar]
  | cons d cs ih =>
    unfold splitAtChar
    generalize given : splitAtChar c cs = parts at ih ⊢
    cases parts with
    | nil => exact absurd given (splitAtChar_ne_nil c cs)
    | cons part parts =>
      split
      · rename_i mark
        simp [List.intercalate_cons_cons, ih, mark]
      · cases parts with
        | nil => simpa using ih
        | cons next parts => simpa [List.intercalate_cons_cons] using ih

theorem splitAtChar_part {c : Char} {part : List Char} (clean : c ∉ part) :
    splitAtChar c part = [part] := by
  induction part with
  | nil => simp [splitAtChar]
  | cons d part ih =>
    obtain ⟨other, rest⟩ : c ≠ d ∧ c ∉ part := by simpa using clean
    rw [splitAtChar, if_neg (Ne.symm other), ih rest]

theorem splitAtChar_mark (c : Char) (before after : List Char) :
    splitAtChar c (before ++ c :: after) = splitAtChar c before ++ splitAtChar c after := by
  induction before with
  | nil => simp [splitAtChar]
  | cons d before ih =>
    rw [List.cons_append, splitAtChar, splitAtChar, ih]
    split_ifs
    · rfl
    · generalize given : splitAtChar c before = parts
      cases parts with
      | nil => exact absurd given (splitAtChar_ne_nil c before)
      | cons part parts => rfl

theorem splitAtChar_append {c : Char} {part : List Char} (clean : c ∉ part) (cs : List Char) :
    splitAtChar c (part ++ c :: cs) = part :: splitAtChar c cs := by
  rw [splitAtChar_mark, splitAtChar_part clean, List.singleton_append]

theorem splitAtChar_intercalate {c : Char} {parts : List (List Char)} (some : parts ≠ [])
    (clean : ∀ part ∈ parts, c ∉ part) : splitAtChar c ([c].intercalate parts) = parts := by
  induction parts with
  | nil => exact absurd rfl some
  | cons part parts ih =>
    have first : c ∉ part := clean part (by simp)
    cases parts with
    | nil => simpa using splitAtChar_part first
    | cons next parts =>
      have later := ih (by simp) fun other member => clean other (by simp [member])
      rw [List.intercalate_cons_cons, List.append_assoc, List.singleton_append,
        splitAtChar_append first, later]

theorem mem_splitAtChar {mark c : Char} {cs : List Char} (member : c ∈ cs) :
    c = mark ∨ ∃ part ∈ splitAtChar mark cs, c ∈ part := by
  induction cs with
  | nil => cases member
  | cons d cs ih =>
    rw [splitAtChar]
    split
    · rename_i same
      rcases List.mem_cons.1 member with rfl | later
      · exact Or.inl same
      · rcases ih later with rfl | ⟨part, found, inside⟩
        · exact Or.inl rfl
        · exact Or.inr ⟨part, List.mem_cons_of_mem _ found, inside⟩
    · split
      · rename_i none
        rcases List.mem_cons.1 member with rfl | later
        · exact Or.inr ⟨[c], List.mem_cons_self, List.mem_cons_self⟩
        · rcases ih later with rfl | ⟨part, found, inside⟩
          · exact Or.inl rfl
          · rw [none] at found
            cases found
      · rename_i first parts more
        rcases List.mem_cons.1 member with rfl | later
        · exact Or.inr ⟨c :: first, List.mem_cons_self, List.mem_cons_self⟩
        · rcases ih later with rfl | ⟨part, found, inside⟩
          · exact Or.inl rfl
          · rw [more] at found
            rcases List.mem_cons.1 found with rfl | found
            · exact Or.inr ⟨d :: part, List.mem_cons_self, List.mem_cons_of_mem d inside⟩
            · exact Or.inr ⟨part, List.mem_cons_of_mem _ found, inside⟩

theorem suffix_intercalate {c : Char} {front : List (List Char)} (some : front ≠ [])
    (part : List Char) : c :: part <:+ [c].intercalate (front ++ [part]) := by
  induction front with
  | nil => exact absurd rfl some
  | cons first rest ih =>
    cases rest with
    | nil => exact ⟨first, by simp [List.intercalate_cons_cons]⟩
    | cons next later =>
      rw [List.cons_append, List.cons_append, List.intercalate_cons_cons]
      exact (ih (List.cons_ne_nil _ _)).trans (List.suffix_append _ _)

theorem splitAtChar_add {c : Char} {cs last : List Char} {front : List (List Char)}
    (divided : splitAtChar c cs = front ++ [last]) (more : List Char) :
    ∃ part parts, splitAtChar c more = part :: parts ∧
      splitAtChar c (cs ++ more) = front ++ (last ++ part) :: parts := by
  induction cs generalizing front last with
  | nil =>
    obtain ⟨rfl, rfl⟩ : front = [] ∧ last = [] := by
      rw [splitAtChar] at divided
      cases front with
      | nil => simpa using divided.symm
      | cons first rest => simp at divided
    generalize given : splitAtChar c more = found
    cases found with
    | nil => exact absurd given (splitAtChar_ne_nil c more)
    | cons part parts => exact ⟨part, parts, rfl, given⟩
  | cons d cs ih =>
    rw [splitAtChar] at divided
    rw [List.cons_append, splitAtChar]
    generalize given : splitAtChar c cs = found at divided
    cases found with
    | nil => exact absurd given (splitAtChar_ne_nil c cs)
    | cons first rest =>
      split_ifs at divided ⊢ with mark
      · cases front with
        | nil => simp at divided
        | cons part before =>
          obtain ⟨rfl, later⟩ := List.cons.inj divided
          obtain ⟨added, parts, same, whole⟩ := ih (given.trans later)
          exact ⟨added, parts, same, by rw [whole, List.cons_append]⟩
      · cases front with
        | nil =>
          obtain ⟨rfl, rfl⟩ : d :: first = last ∧ rest = [] := by simpa using divided
          obtain ⟨added, parts, same, whole⟩ := @ih _ [] given
          exact ⟨added, parts, same, by rw [whole]; rfl⟩
        | cons part before =>
          obtain ⟨rfl, later⟩ := List.cons.inj divided
          obtain ⟨added, parts, same, whole⟩ := @ih _ (first :: before)
            (given.trans (congrArg (first :: ·) later))
          exact ⟨added, parts, same, by rw [whole]; rfl⟩

theorem last_part {c : Char} {cs part : List Char} {front : List (List Char)}
    (divided : splitAtChar c cs = front ++ [part]) :
    front = [] ∧ cs = part ∨ front ≠ [] ∧ c :: part <:+ cs := by
  have joined := intercalate_splitAtChar c cs
  rw [divided] at joined
  cases front with
  | nil => exact .inl ⟨rfl, by simpa using joined.symm⟩
  | cons first rest =>
    have some := List.cons_ne_nil first rest
    exact .inr ⟨some, joined ▸ suffix_intercalate some part⟩

end TitleTemplate
