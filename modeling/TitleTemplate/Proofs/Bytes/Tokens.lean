import TitleTemplate.Proofs.Bytes.Scans

/-!
Cursors go through a text by bytes. The tokens of a template, read with a cursor that divides the
text at the offsets its scans over bytes find, are those read by characters, and no division fails.
-/
namespace TitleTemplate

/-- What is left of a text, and where it stands in the whole. -/
structure Cursor where
  rest : List Char
  place : Position

namespace Cursor

/-- Goes forward by some bytes. Lines and columns count characters, offsets count bytes. -/
def advance (c : Cursor) (bytes : Nat) : Sliced (List Char × Cursor) := do
  let (passed, rest) ← divideAt bytes c.rest
  let stop := c.place.after passed
  return (passed, ⟨rest, ⟨stop.line, stop.column, c.place.offset + bytes⟩⟩)

def nextToken (c : Cursor) : Sliced (Option ((Token × Span) × Cursor)) := do
  match utf8 c.rest with
  | [] => return none
  | first :: more =>
    if first ≠ mark '\x7b' then
      let (lead, next) ← c.advance ((first :: more).findIdx (· == mark '\x7b'))
      return some ((.text lead, ⟨c.place, next.place⟩), next)
    else if more.head? = some (mark '\x7b') then
      let (raw, next) ← c.advance 2
      -- The token stands for the first of the two braces.
      let _ ← upTo raw 1
      return some ((.brace, ⟨c.place, next.place⟩), next)
    else
      match closeOffset (utf8 (← behind c.rest 1)) with
      | some stop =>
        let (raw, next) ← c.advance (stop + 2)
        let inner ← between raw 1 (byteSize raw - 1)
        return some ((.expression inner, ⟨c.place, next.place⟩), next)
      | none =>
        let (raw, next) ← c.advance (first :: more).length
        return some ((.text raw, ⟨c.place, next.place⟩), next)

/-- Asks for tokens until there is none, with those read so far in reverse. -/
def tokensAfter (read : List (Token × Span)) (c : Cursor) : Sliced (List (Token × Span)) :=
  (c, read) |> repeatM fun (c, read) => do
    match ← c.nextToken with
    | none => return .inr read.reverse
    | some (t, next) => return .inl (next, t :: read)

end Cursor

theorem utf8Len_eq_byteSize (cs : List Char) : String.utf8Len cs = byteSize cs := by
  rw [← String.utf8ByteSize_ofList, utf8ByteSize_eq_byteSize, String.toList_ofList]

theorem advance_append {c : Cursor} {taken rest : List Char} (shape : c.rest = taken ++ rest) :
    c.advance (byteSize taken) = pure (taken, ⟨rest, c.place.after taken⟩) := by
  have offset : c.place.offset + byteSize taken = (c.place.after taken).offset := by
    rw [offset_after, utf8Len_eq_byteSize]
  rw [Cursor.advance, shape, divideAt_append, pure_bind, offset]

theorem nextToken_scan {c : Cursor} {t : Token} {ts : List Token}
    (scanned : Token.scan c.rest = t :: ts) :
    ∃ rest, c.rest = t.source ++ rest ∧ Token.scan rest = ts ∧
      c.nextToken = pure (some ((t, ⟨c.place, c.place.after t.source⟩),
        ⟨rest, c.place.after t.source⟩)) := by
  obtain ⟨rest, shape, later, -⟩ := Token.scan_cut scanned
  refine ⟨rest, shape, later, ?_⟩
  have advanced := advance_append shape
  obtain ⟨text, place⟩ := c
  dsimp only at scanned shape advanced ⊢
  cases text with
  | nil =>
    rw [Token.scan_nil] at scanned
    cases scanned
  | cons d tail =>
    cases opens : isOpen d with
    | false =>
      obtain ⟨first, more, bytes⟩ := List.exists_cons_of_ne_nil (utf8_ne_nil d tail)
      have notOpen : first ≠ mark '\x7b' := by
        rintro rfl
        have begins := (head?_utf8 (d :: tail) (by decide)).1 (congrArg List.head? bytes)
        rw [isOpen_iff.2 (Option.some.inj begins)] at opens
        cases opens
      rw [Token.scan_text opens] at scanned
      obtain ⟨rfl, -⟩ := List.cons.inj scanned
      have lead := findIdx_open (d :: tail)
      rw [List.takeWhile_cons, opens, Bool.not_false, if_pos rfl] at lead
      rw [Cursor.nextToken, bytes]
      simp only [ne_eq, notOpen, not_false_eq_true, ↓reduceIte]
      rw [← bytes, lead]
      exact congrArg (· >>= _) advanced
    | true =>
      obtain rfl := isOpen_iff.1 opens
      have here : behind ('\x7b' :: tail) 1 = pure tail := behind_append ['\x7b'] tail
      rw [Cursor.nextToken, utf8_narrow (by decide)]
      simp only [ne_eq, not_true_eq_false, ↓reduceIte, head?_utf8 tail (c := '\x7b') (by decide)]
      cases tail with
      | nil =>
        rw [Token.scan_open] at scanned
        obtain ⟨rfl, -⟩ := List.cons.inj scanned
        rw [if_neg (by simp), here, pure_bind]
        exact congrArg (· >>= _) advanced
      | cons e after =>
        cases again : isOpen e with
        | true =>
          obtain rfl := isOpen_iff.1 again
          rw [Token.scan_braces] at scanned
          obtain ⟨rfl, -⟩ := List.cons.inj scanned
          have one : upTo ['\x7b', '\x7b'] 1 = pure ['\x7b'] := upTo_append ['\x7b'] ['\x7b']
          rw [List.head?_cons, if_pos rfl]
          refine (congrArg (· >>= _) advanced).trans ?_
          rw [pure_bind]
          exact congrArg (· >>= _) one
        | false =>
          have single : (e :: after).head? ≠ some '\x7b' := by
            intro begins
            rw [isOpen_iff.2 (Option.some.inj begins)] at again
            cases again
          rw [if_neg single, here, pure_bind, closeOffset_utf8]
          cases found : splitAtClose (e :: after) with
          | none =>
            rw [Token.scan_unclosed again found] at scanned
            obtain ⟨rfl, -⟩ := List.cons.inj scanned
            have size : (mark '\x7b' :: utf8 (e :: after)).length =
                byteSize ('\x7b' :: e :: after) := by
              rw [← utf8_narrow (by decide), length_utf8]
            simp only [Option.map_none, size]
            exact congrArg (· >>= _) advanced
          | some parts =>
            obtain ⟨inner, others⟩ := parts
            rw [Token.scan_closed again found] at scanned
            obtain ⟨rfl, -⟩ := List.cons.inj scanned
            have size : byteSize inner + 2 = byteSize (braced inner) := by
              rw [braced, byteSize_cons, byteSize_append]
              exact Nat.add_comm (byteSize inner + 1) 1
            simp only [Option.map_some, size]
            refine (congrArg (· >>= _) advanced).trans ?_
            rw [pure_bind]
            exact congrArg (· >>= _) (between_inside rfl rfl inner)

theorem tokensAfter_scan (read : List (Token × Span)) (c : Cursor) :
    c.tokensAfter read = pure (read.reverse ++ Token.locate c.place (Token.scan c.rest)) := by
  generalize scanned : Token.scan c.rest = ts
  induction ts generalizing c read with
  | nil =>
    have ended : c.rest = [] := by rw [← Token.scan_source c.rest, scanned, List.flatMap_nil]
    refine repeat_ends ?_
    dsimp only
    rw [Cursor.nextToken, ended, utf8_nil, pure_bind]
    rw [Token.locate, List.append_nil]
  | cons t ts ih =>
    obtain ⟨rest, -, later, next⟩ := nextToken_scan scanned
    have turn := ih ((t, ⟨c.place, c.place.after t.source⟩) :: read)
      ⟨rest, c.place.after t.source⟩ later
    rw [List.reverse_cons, List.append_assoc, List.singleton_append] at turn
    refine (repeat_again ?_).trans turn
    dsimp only
    rw [next, pure_bind]

end TitleTemplate
