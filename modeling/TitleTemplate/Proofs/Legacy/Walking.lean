import TitleTemplate.Proofs.Legacy.Arrivals

/-!
Reading through a text for the first time. Nothing is known from the place on where reading stands,
so no construct is answered from the notes; text without braces, quotes and backslashes goes into a
branch as it is.
-/
namespace TitleTemplate.Legacy

def Notes.Fresh (offset : Nat) (notes : Notes) : Prop :=
  ∀ place, offset ≤ place → notes.known.lookup place = none

theorem fresh_start (offset : Nat) : Notes.Fresh offset ⟨[], []⟩ := fun _ _ => rfl

theorem fresh_later {a b : Nat} {notes : Notes} (fresh : notes.Fresh a) (le : a ≤ b) :
    notes.Fresh b := fun place later => fresh place (Nat.le_trans le later)

theorem fresh_learn {a b : Nat} {notes : Notes} (fresh : notes.Fresh b) (before : a < b)
    (found : Option Converted) : (notes.learn a found).Fresh b := by
  intro place later
  rw [Notes.learn, List.lookup_cons, beq_eq_false_iff_ne.2 (by omega)]
  exact fresh place later

theorem prepend_prepend (m n : Nat) (a b : List Char) (result : Option Converted × Notes) :
    Converted.prepend m a (Converted.prepend n b result) =
      Converted.prepend (m + n) (a ++ b) result := by
  obtain ⟨found, notes⟩ := result
  cases found with
  | none => rfl
  | some c => simp [Converted.prepend, Nat.add_assoc]

def isPlain (c : Char) : Bool := c != '\\' && c != '\x7b' && !isQuote c

theorem isPlain_iff {c : Char} : isPlain c = true ↔ c ≠ '\\' ∧ c ≠ '\x7b' ∧ isQuote c = false := by
  simp [isPlain, and_assoc]

variable {inside : Reader} {quote : Char}

theorem branchFrom_char (opens : isQuote quote = true) {c : Char} (plain : isPlain c = true)
    (offset : Nat) (rest : List Char) (notes : Notes) :
    branchFrom inside quote offset (c :: rest) notes =
      Converted.prepend 1 [c] (branchFrom inside quote (offset + c.utf8Size) rest notes) := by
  obtain ⟨noEscape, notOpen, noQuote⟩ := isPlain_iff.1 plain
  have other : c ≠ quote := by
    rintro rfl
    rw [opens] at noQuote
    cases noQuote
  rw [branchFrom, if_neg other]
  · exact fun d tail same => absurd same noEscape
  · exact notOpen

theorem branchFrom_plain (opens : isQuote quote = true) {w : List Char}
    (plain : w.all isPlain = true) (offset : Nat) (rest : List Char) (notes : Notes) :
    branchFrom inside quote offset (w ++ rest) notes =
      Converted.prepend w.length w (branchFrom inside quote (offset + byteSize w) rest notes) := by
  induction w generalizing offset with
  | nil =>
    rw [List.nil_append, byteSize, Nat.add_zero]
    rcases branchFrom inside quote offset rest notes with ⟨_ | c, after⟩ <;>
      simp [Converted.prepend]
  | cons c w ih =>
    rw [List.all_cons, Bool.and_eq_true] at plain
    rw [List.cons_append, branchFrom_char opens plain.1, ih plain.2, prepend_prepend,
      byteSize_cons, Nat.add_assoc, List.length_cons, Nat.add_comm 1]
    rfl

theorem branchFrom_end (opens : isQuote quote = true) (offset : Nat) (rest : List Char)
    (notes : Notes) :
    branchFrom inside quote offset (quote :: rest) notes = (some ⟨1, []⟩, notes) := by
  rw [branchFrom, if_pos rfl]
  · rintro c tail rfl
    exact absurd opens (by decide)
  · exact quote_not_open opens

theorem spells_closed_text {limit : Nat} {w : List Char} (closed : ∀ c ∈ w, c ≠ '\x7b') :
    ∃ nodes, Spells limit 0 w nodes := by
  induction w with
  | nil => exact ⟨[], spells_nil⟩
  | cons c w ih =>
    obtain ⟨nodes, later⟩ := ih fun d member => closed d (List.mem_cons_of_mem c member)
    have notOpen : isOpen c = false := by simpa [isOpen] using closed c List.mem_cons_self
    exact ⟨_, spells_append (spells_char notOpen) later⟩

theorem read_flag {p : List Char} (path : (splitAtChar '.' p).all isSegment = true) {d : Char}
    (ends : isPathChar d = false) (single : d ≠ ':') (rest : List Char) :
    Head.read (p ++ d :: rest) = some (⟨p, [], none⟩, d :: rest) := by
  have stop : ∀ c ∈ (d :: rest).head?, isPathChar c = false := by
    rintro c ⟨⟩
    exact ends
  obtain ⟨taken, left⟩ := while_taken (path_chars path) stop
  have steps : readSteps (d :: rest) = some ([], none, d :: rest) := by
    rw [readSteps]
    rintro more same
    exact absurd (List.cons.inj same).1 single
  rw [head_read_eq, taken, left, if_pos path, steps]
  rfl

def branchEnd : List Char := ['"', ']', '\x7d']

theorem branchFrom_branchEnd (offset : Nat) (tail : List Char) (notes : Notes) :
    branchFrom inside '"' offset (branchEnd ++ tail) notes = (some ⟨1, []⟩, notes) :=
  branchFrom_end (by decide) offset _ notes

variable {offset : Nat} {before rest : List Char} {notes after : Notes} {head : Head}
  {first : Converted}

theorem branch_after (opens : isQuote quote = true)
    (whenTrue : branchFrom inside quote (offset + 1 + byteSize before + 1) rest notes =
      (some first, after)) :
    branch inside (offset + 1 + byteSize ((before ++ quote :: rest).take
      ((before ++ quote :: rest).length - (quote :: rest).length))) (quote :: rest) notes =
        (some ⟨1 + first.length, first.text⟩, after) := by
  have length : (before ++ quote :: rest).length - (quote :: rest).length = before.length := by
    rw [List.length_append]
    omega
  rw [length, List.take_left, branch, if_pos opens, whenTrue]
  rfl

theorem readConstruct_single {tail : List Char} (opens : isQuote quote = true)
    (read : Head.read (before ++ quote :: rest) = some (head, '[' :: quote :: rest))
    (whenTrue : branchFrom inside quote (offset + 1 + byteSize before + 1) rest notes =
      (some first, after))
    (ends : rest.drop first.length = ']' :: '\x7d' :: tail) :
    readConstruct inside offset (before ++ quote :: rest) notes =
      (some ⟨(before ++ quote :: rest).length - tail.length, conditional head first.text []⟩,
        after) := by
  have dropped : (quote :: rest).drop (1 + first.length) = ']' :: '\x7d' :: tail := by
    rw [Nat.add_comm, List.drop_succ_cons, ends]
  simp only [readConstruct, read, branch_after opens whenTrue, dropped]

theorem readConstruct_double {second : Converted} {last : Notes} {other : Char}
    {more tail : List Char} (opens : isQuote quote = true) (opensToo : isQuote other = true)
    (read : Head.read (before ++ quote :: rest) = some (head, '[' :: quote :: rest))
    (whenTrue : branchFrom inside quote (offset + 1 + byteSize before + 1) rest notes =
      (some first, after))
    (seam : rest.drop first.length = '|' :: '|' :: other :: more)
    (whenFalse : ∀ start, branchFrom inside other start more after = (some second, last))
    (ends : more.drop second.length = ']' :: '\x7d' :: tail) :
    readConstruct inside offset (before ++ quote :: rest) notes =
      (some ⟨(before ++ quote :: rest).length - tail.length,
        conditional head first.text second.text⟩, last) := by
  have dropped : (quote :: rest).drop (1 + first.length) = '|' :: '|' :: other :: more := by
    rw [Nat.add_comm, List.drop_succ_cons, seam]
  have droppedToo : (other :: more).drop (1 + second.length) = ']' :: '\x7d' :: tail := by
    rw [Nat.add_comm, List.drop_succ_cons, ends]
  have branchToo : ∀ start, branch inside start (other :: more) after =
      (some ⟨1 + second.length, second.text⟩, last) := by
    intro start
    rw [branch, if_pos opensToo, whenFalse]
    rfl
  simp only [readConstruct, read, branch_after opens whenTrue, dropped, branchToo, droppedToo]

theorem readConstruct_unended (opens : isQuote quote = true)
    (read : Head.read (before ++ quote :: rest) = some (head, '[' :: quote :: rest))
    (whenTrue : branchFrom inside quote (offset + 1 + byteSize before + 1) rest notes =
      (some first, after))
    (noEnd : ∀ tail, rest.drop first.length ≠ ']' :: '\x7d' :: tail)
    (noSecond : ∀ c tail, rest.drop first.length = '|' :: '|' :: c :: tail → isQuote c = false) :
    readConstruct inside offset (before ++ quote :: rest) notes = (none, after) := by
  have dropped : (quote :: rest).drop (1 + first.length) = rest.drop first.length := by
    rw [Nat.add_comm, List.drop_succ_cons]
  simp only [readConstruct, read, branch_after opens whenTrue, dropped]
  split
  · rename_i tail ends
    exact absurd ends (noEnd tail)
  · rename_i more bars
    have unread : ∀ start, branch inside start more after = (none, after) := by
      intro start
      cases more with
      | nil => rfl
      | cons c tail =>
        rw [branch, if_neg]
        rw [noSecond c tail bars]
        exact Bool.false_ne_true
    rw [unread]
  · rfl

end TitleTemplate.Legacy
