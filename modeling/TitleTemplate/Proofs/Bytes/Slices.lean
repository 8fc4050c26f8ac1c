import TitleTemplate.Proofs.Bytes.Conversion
import TitleTemplate.Proofs.Bytes.Lexemes
import TitleTemplate.Text.Search

/-!
Every text can be divided wherever a program divides it. Escaping for markup finds the reserved
characters in the bytes, and a limit steps down until it is where a character begins; these, the
cursors over templates and expressions and the conversion of the older dialect all come to their
results, whatever the text is.
-/
namespace TitleTemplate

def replacement? (b : UInt8) : Option (List Char) :=
  if b = mark '<' then some "&lt;".toList
  else if b = mark '>' then some "&gt;".toList
  else if b = mark '&' then some "&amp;".toList
  else if b = mark '"' then some "&quot;".toList
  else if b = mark '\'' then some "&#x27;".toList
  else none

def runAt (source : List Char) (start stop : Nat) : Sliced (List (List Char)) := do
  if start < stop then return [← between source start stop] else return []

/-- The pieces of an escaped text from an index on, when all before an offset has been written. -/
def markupAt (source : List Char) (start index : Nat) : List UInt8 → Sliced (List (List Char))
  | [] => do
    if start < index then return [← behind source start] else return []
  | b :: bs =>
    match replacement? b with
    | none => markupAt source start (index + 1) bs
    | some entity => do
      let run ← runAt source start index
      return run ++ entity :: (← markupAt source (index + 1) (index + 1) bs)

def boundaryBelow (source : List Char) : Nat → Nat
  | 0 => 0
  | n + 1 =>
    if String.Pos.Raw.IsValid (String.ofList source) ⟨n + 1⟩ then n + 1
    else boundaryBelow source n

def cutAt (limit : Nat) (source : List Char) : Sliced (List Char) :=
  if byteSize source ≤ limit then pure source else upTo source (boundaryBelow source limit)

theorem entity_narrow {c : Char} {entity : List Char} (found : entity? c = some entity) :
    c.toNat < 128 := by
  unfold entity? at found
  split_ifs at found <;> subst c <;> decide

theorem replacement_mark {c : Char} (narrow : c.toNat < 128) :
    replacement? (mark c) = entity? c := by
  have same {d : Char} (other : d.toNat < 128) : mark c = mark d ↔ c = d := mark_inj narrow other
  simp only [replacement?, entity?, same (d := '<') (by decide), same (d := '>') (by decide),
    same (d := '&') (by decide), same (d := '"') (by decide), same (d := '\'') (by decide)]

theorem replacement_high {b : UInt8} (high : 128 ≤ b.toNat) : replacement? b = none := by
  have other {c : Char} (narrow : c.toNat < 128) : b ≠ mark c := ne_mark high narrow
  rw [replacement?, if_neg (other (by decide)), if_neg (other (by decide)),
    if_neg (other (by decide)), if_neg (other (by decide)), if_neg (other (by decide))]

theorem markupAt_passed {source : List Char} {start : Nat} {passed : List UInt8}
    (kept : ∀ b ∈ passed, replacement? b = none) (index : Nat) (bs : List UInt8) :
    markupAt source start index (passed ++ bs) =
      markupAt source start (index + passed.length) bs := by
  induction passed generalizing index with
  | nil => rfl
  | cons b passed ih =>
    rw [List.cons_append, markupAt, kept b List.mem_cons_self]
    dsimp only
    rw [ih fun d member => kept d (List.mem_cons_of_mem b member), List.length_cons, Nat.add_assoc,
      Nat.add_comm 1]

theorem markupAt_char {source : List Char} {start : Nat} {c : Char} (plain : entity? c = none)
    (index : Nat) (cs : List Char) :
    markupAt source start index (utf8 (c :: cs)) =
      markupAt source start (index + c.utf8Size) (utf8 cs) := by
  have kept : ∀ b ∈ String.utf8EncodeChar c, replacement? b = none := by
    intro b member
    by_cases narrow : c.toNat < 128
    · rw [encode_narrow narrow, List.mem_singleton] at member
      rw [member, replacement_mark narrow, plain]
    · exact replacement_high (encode_wide (Nat.le_of_not_lt narrow) b member)
  rw [utf8_cons, markupAt_passed kept, String.length_utf8EncodeChar]

theorem passed_iff {n : Nat} {run : List Char} : n < n + byteSize run ↔ run ≠ [] := by
  rw [Nat.lt_add_right_iff_pos, Nat.pos_iff_ne_zero, ne_eq, byteSize_eq_zero]

theorem runAt_eq (before run rest : List Char) :
    runAt (before ++ (run.reverse ++ rest)) (byteSize before) (byteSize before + byteSize run) =
      pure (if run = [] then [] else [run.reverse]) := by
  rw [runAt]
  by_cases empty : run = []
  · rw [if_neg (mt passed_iff.1 (not_not_intro empty)), if_pos empty]
  · rw [if_pos (passed_iff.2 empty), if_neg empty, ← byteSize_reverse run, between_append,
      pure_bind]

theorem markupAt_eq (before run cs : List Char) :
    markupAt (before ++ (run.reverse ++ cs)) (byteSize before) (byteSize before + byteSize run)
      (utf8 cs) = pure (markupPieces run cs) := by
  induction cs generalizing before run with
  | nil =>
    rw [utf8_nil, markupAt, markupPieces, List.append_nil, behind_append]
    by_cases empty : run = []
    · rw [if_neg (mt passed_iff.1 (not_not_intro empty)), if_pos empty]
    · rw [if_pos (passed_iff.2 empty), if_neg empty, pure_bind]
  | cons c cs ih =>
    rw [markupPieces]
    cases found : entity? c with
    | none =>
      have later := ih before (c :: run)
      rw [List.reverse_cons, List.append_assoc, List.singleton_append, byteSize_cons,
        Nat.add_comm c.utf8Size, ← Nat.add_assoc] at later
      rw [markupAt_char found, later]
    | some entity =>
      have narrow := entity_narrow found
      have later := ih (before ++ (run.reverse ++ [c])) []
      have start : byteSize (before ++ (run.reverse ++ [c])) =
          byteSize before + byteSize run + 1 := by
        rw [byteSize_append, byteSize_append, byteSize_reverse, byteSize_cons,
          utf8Size_narrow narrow, byteSize, Nat.add_assoc]
      rw [start] at later
      simp only [List.reverse_nil, List.nil_append, List.append_assoc, List.singleton_append,
        byteSize, Nat.add_zero] at later
      rw [utf8_narrow narrow, markupAt, replacement_mark narrow, found]
      dsimp only
      rw [runAt_eq, pure_bind, later, pure_bind]
      by_cases empty : run = [] <;> simp [empty]

/-! Limits. -/

theorem boundaryBelow_eq {source : List Char} {m n : Nat} (below : m ≤ n)
    (sound : String.Pos.Raw.IsValid (String.ofList source) ⟨m⟩)
    (highest : ∀ k ≤ n, String.Pos.Raw.IsValid (String.ofList source) ⟨k⟩ → k ≤ m) :
    boundaryBelow source n = m := by
  induction n with
  | zero => exact (Nat.le_zero.1 below).symm
  | succ n ih =>
    rw [boundaryBelow]
    split
    · rename_i here
      exact Nat.le_antisymm (highest (n + 1) (Nat.le_refl _) here) below
    · rename_i notHere
      have other : m ≠ n + 1 := by
        rintro rfl
        exact notHere sound
      exact ih (by omega) fun k le => highest k (Nat.le_succ_of_le le)

theorem boundaryBelow_cut (limit : Nat) (source : List Char) :
    boundaryBelow source limit = byteSize (cut limit source) := by
  refine boundaryBelow_eq (byteSize_cut limit source)
    (isValid_iff.2 ⟨_, isPrefix_cut limit source, rfl⟩) fun k le sound => ?_
  obtain ⟨p, begins, rfl⟩ := isValid_iff.1 sound
  exact byteSize_le_of_sublist (prefix_cut begins le).sublist

theorem cutAt_eq (limit : Nat) (source : List Char) :
    cutAt limit source = pure (cut limit source) := by
  rw [cutAt]
  split
  · rename_i fits
    rw [cut_of_fits fits]
  · obtain ⟨rest, shape⟩ := isPrefix_cut limit source
    have sound := upTo_append (cut limit source) rest
    rwa [shape, ← boundaryBelow_cut] at sound

/-- Whatever a text is, every program that divides it at offsets comes to the result of the one that
goes through it by characters: reading tokens, reading the lexemes of an expression at any place,
converting a template of the older dialect, escaping for markup and cutting to a limit. -/
theorem slices_never_fail (text : String) :
    Cursor.tokensAfter [] ⟨text.toList, .first⟩ = pure (Token.ofTemplate text) ∧
    (∀ place, Cursor.lexemesAfter unescape [] ⟨text.toList, place⟩ =
      pure (Lexed.scan place text.toList)) ∧
    Legacy.convertAt text.toList = pure (Legacy.convert text) ∧
    markupAt text.toList 0 0 (utf8 text.toList) = pure (markupPieces [] text.toList) ∧
    ∀ limit, cutAt limit text.toList = pure (cutString limit text).toList := by
  refine ⟨tokensAfter_scan [] _, fun place => lexemesAfter_scan [] _ fun _ _ => rfl,
    Legacy.convertAt_eq text, markupAt_eq [] [] text.toList, fun limit => ?_⟩
  rw [toList_cutString]
  exact cutAt_eq limit text.toList

end TitleTemplate
