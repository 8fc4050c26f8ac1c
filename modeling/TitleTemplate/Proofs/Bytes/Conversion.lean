import TitleTemplate.Proofs.Bytes.Constructs
import TitleTemplate.Proofs.Bytes.Scans

/-!
Templates of the older dialect, converted with offsets of the source. The end of an expression that
stays as it is is found in the bytes: where a backslash hides the first byte of a character, the
others mean nothing to the scan, so that it ends where the scan over characters ends.
-/
namespace TitleTemplate.Legacy

/-- The quote that is open behind a byte. -/
def quoteBehind (quote : Option UInt8) (b : UInt8) : Option UInt8 :=
  match quote with
  | none => if b = mark '"' ∨ b = mark '\'' then some b else none
  | some q => if b = q then none else some q

/-- The offset behind the next brace that closes, when no brace opens before it outside of quotes.
A backslash hides one byte. -/
def spanStop (quote : Option UInt8) (index : Nat) : List UInt8 → Option Nat
  | [] => none
  | b :: bs =>
    if b = mark '\\' then spanStop quote (index + 2) (bs.drop 1)
    else if b = mark '\x7d' then some (index + 1)
    else if b = mark '\x7b' ∧ quote = none then none
    else spanStop (quoteBehind quote b) (index + 1) bs
termination_by bytes => bytes.length

section Programs
variable (source : List Char)

def keptAt (start : Nat) : Sliced (Option Nat) := do
  match spanStop none (start + 1) ((utf8 source).drop (start + 1)) with
  | none => return none
  | some stop => return if isOutput (← between source start stop) then some stop else none

def convertTurn : Nat × List Char × Memory →
    Sliced ((Nat × List Char × Memory) ⊕ (List Char × Memory)) := fun (pos, out, memory) => do
  let rest ← behind source pos
  if rest.all (!isOpen ·) then return .inr (out ++ rest, memory)
  let start := pos + byteSize (rest.takeWhile (!isOpen ·))
  let out := out ++ (← between source pos start)
  match ← constructAt source 0 start memory with
  | (some found, memory) => return .inl (found.stop, out ++ found.text, memory)
  | (none, memory) =>
    match ← keptAt source start with
    | some stop =>
      let kept ← between source start stop
      return .inl (stop, out ++ kept, memory.tell (.keptSpan start))
    | none => return .inl (start + 1, out ++ ['\x7b', '\x7b'], memory)

def convertAt : Sliced (Logged String) := do
  let (text, memory) ← repeatM (convertTurn source) (0, [], ⟨[], []⟩)
  return ⟨String.ofList text, memory.events.reverse⟩

end Programs

theorem quoteBehind_high {quote : Option UInt8} (narrow : ∀ q ∈ quote, q.toNat < 128) {b : UInt8}
    (high : 128 ≤ b.toNat) : quoteBehind quote b = quote := by
  cases quote with
  | none => exact if_neg (not_or.2 ⟨ne_mark high (by decide), ne_mark high (by decide)⟩)
  | some q =>
    refine if_neg ?_
    rintro rfl
    exact absurd (narrow b rfl) (Nat.not_lt.2 high)

theorem spanStop_high {quote : Option UInt8} (narrow : ∀ q ∈ quote, q.toNat < 128)
    {hs : List UInt8} (high : ∀ b ∈ hs, 128 ≤ b.toNat) (index : Nat) (bs : List UInt8) :
    spanStop quote index (hs ++ bs) = spanStop quote (index + hs.length) bs := by
  induction hs generalizing index with
  | nil => rfl
  | cons b hs ih =>
    have wide := high b List.mem_cons_self
    have notOpen : ¬ (b = mark '\x7b' ∧ quote = none) :=
      fun opens => ne_mark wide (by decide) opens.1
    rw [List.cons_append, spanStop, if_neg (ne_mark wide (by decide)),
      if_neg (ne_mark wide (by decide)), if_neg notOpen, quoteBehind_high narrow wide,
      ih fun d member => high d (List.mem_cons_of_mem b member), List.length_cons,
      Nat.add_assoc, Nat.add_comm 1]

/-- A backslash hides the character after it, though it passes over one byte only. -/
theorem spanStop_escape {quote : Option UInt8} (narrow : ∀ q ∈ quote, q.toNat < 128) (index : Nat)
    (c : Char) (cs : List Char) :
    spanStop quote index (utf8 ('\\' :: c :: cs)) =
      spanStop quote (index + 1 + c.utf8Size) (utf8 cs) := by
  rw [utf8_narrow (by decide), utf8_cons]
  obtain ⟨b, bs, bytes⟩ := List.exists_cons_of_ne_nil (String.utf8EncodeChar_ne_nil (c := c))
  have size : (b :: bs).length = c.utf8Size := by rw [← bytes, String.length_utf8EncodeChar]
  have tail : ∀ d ∈ bs, 128 ≤ d.toNat := by
    intro d member
    by_cases one : c.toNat < 128
    · rw [encode_narrow one] at bytes
      obtain ⟨-, rfl⟩ := List.cons.inj bytes
      cases member
    · exact encode_wide (Nat.le_of_not_lt one) d (bytes ▸ List.mem_cons_of_mem b member)
  rw [bytes, List.cons_append, spanStop, if_pos rfl, List.drop_succ_cons, List.drop_zero,
    spanStop_high narrow tail, ← size, List.length_cons]
  exact congrArg (spanStop quote · (utf8 cs)) (by omega)

theorem isQuote_narrow {c : Char} (quotes : isQuote c = true) : c.toNat < 128 := by
  rcases quote_cases quotes with rfl | rfl <;> decide

def quoteAfter (quote : Option Char) (c : Char) : Option Char :=
  match quote with
  | none => if isQuote c then some c else none
  | some q => if c = q then none else some q

theorem quoteAfter_isQuote {quote : Option Char} (quotes : ∀ q ∈ quote, isQuote q = true)
    (c : Char) : ∀ q ∈ quoteAfter quote c, isQuote q = true := by
  intro q member
  cases quote with
  | none =>
    rw [quoteAfter] at member
    split at member
    · rw [Option.mem_some_iff] at member
      rwa [← member]
    · cases member
  | some d =>
    rw [quoteAfter] at member
    split at member
    · cases member
    · exact quotes q member

theorem spanStop_char {quote : Option Char} (quotes : ∀ q ∈ quote, isQuote q = true) {c : Char}
    (plain : c ≠ '\\') (noClose : c ≠ '\x7d') (noOpen : quote = none → c ≠ '\x7b') (index : Nat)
    (cs : List Char) :
    spanStop (quote.map mark) index (utf8 (c :: cs)) =
      spanStop ((quoteAfter quote c).map mark) (index + c.utf8Size) (utf8 cs) := by
  by_cases narrow : c.toNat < 128
  · have same {d : Char} (other : d.toNat < 128) : mark c = mark d ↔ c = d := mark_inj narrow other
    have behind : quoteBehind (quote.map mark) (mark c) = (quoteAfter quote c).map mark := by
      cases quote with
      | none =>
        simp only [Option.map_none, quoteBehind, quoteAfter, isQuote, same (d := '"') (by decide),
          same (d := '\'') (by decide), Bool.or_eq_true, decide_eq_true_iff]
        split <;> rfl
      | some q =>
        simp only [Option.map_some, quoteBehind, quoteAfter, same (isQuote_narrow (quotes q rfl))]
        split <;> rfl
    have stays : ¬ (mark c = mark '\x7b' ∧ quote.map mark = none) := by
      rw [same (by decide), Option.map_eq_none_iff]
      exact fun opens => noOpen opens.2 opens.1
    rw [utf8_narrow narrow, spanStop, if_neg (mt (same (by decide)).1 plain),
      if_neg (mt (same (by decide)).1 noClose), if_neg stays, behind, utf8Size_narrow narrow]
  · have high := encode_wide (Nat.le_of_not_lt narrow)
    have marks : ∀ b ∈ quote.map mark, b.toNat < 128 := by
      intro b member
      obtain ⟨q, found, rfl⟩ := Option.mem_map.1 member
      have one := isQuote_narrow (quotes q found)
      rwa [toNat_mark one]
    have unlike {d : Char} (other : d.toNat < 128) : c ≠ d := by
      rintro rfl
      exact narrow other
    have kept : quoteAfter quote c = quote := by
      cases quote with
      | none =>
        refine if_neg fun quotes => narrow (isQuote_narrow quotes)
      | some q => exact if_neg (unlike (isQuote_narrow (quotes q rfl)))
    rw [utf8_cons, spanStop_high marks high, String.length_utf8EncodeChar, kept]

theorem quotes_narrow {quote : Option Char} (quotes : ∀ q ∈ quote, isQuote q = true) :
    ∀ b ∈ quote.map mark, b.toNat < 128 := by
  intro b member
  obtain ⟨q, found, rfl⟩ := Option.mem_map.1 member
  have one := isQuote_narrow (quotes q found)
  rwa [toNat_mark one]

theorem map_take_cons (index : Nat) (c : Char) (cs : List Char) (found : Option Nat) :
    (found.map fun n => index + c.utf8Size + byteSize (cs.take n)) =
      (found.map (· + 1)).map fun n => index + byteSize ((c :: cs).take n) := by
  cases found with
  | none => rfl
  | some n => rw [Option.map_some, Option.map_some, Option.map_some, List.take_succ_cons,
      byteSize_cons, Nat.add_assoc]

/-- An expression has the same end for the scan over bytes and for the one over characters. -/
theorem spanStop_utf8 {quote : Option Char} (quotes : ∀ q ∈ quote, isQuote q = true) (index : Nat)
    (cs : List Char) :
    spanStop (quote.map mark) index (utf8 cs) =
      (spanLength quote cs).map fun n => index + byteSize (cs.take n) := by
  fun_induction spanLength quote cs generalizing index with
  | case1 =>
    rw [utf8_nil, spanStop]
    rfl
  | case2 quote =>
    rw [utf8_narrow (by decide), spanStop, if_pos rfl, utf8_nil, List.drop_nil, spanStop]
    rfl
  | case3 quote c cs ih =>
    have two : (spanLength quote cs).map (· + 2) =
        ((spanLength quote cs).map (· + 1)).map (· + 1) :=
      (Option.map_map ..).symm
    rw [spanStop_escape (quotes_narrow quotes), ih quotes, map_take_cons, two]
    exact map_take_cons index '\\' (c :: cs) _
  | case4 quote cs =>
    rw [utf8_narrow (by decide), spanStop, if_neg (by decide), if_pos rfl]
    rfl
  | case5 cs =>
    rw [utf8_narrow (by decide), spanStop, if_neg (by decide), if_neg (by decide),
      if_pos ⟨rfl, rfl⟩]
    rfl
  | case6 c cs last escapes noClose noOpen ih =>
    have plain := noEscape_of_more escapes last
    have next := spanStop_char quotes plain noClose (fun _ => noOpen) index cs
    have later := ih (quoteAfter_isQuote quotes c) (index + c.utf8Size)
    exact (next.trans later).trans (map_take_cons index c cs _)
  | case7 c cs last escapes noClose q ih =>
    have plain := noEscape_of_more escapes last
    have next := spanStop_char quotes plain noClose (absurd · (Option.some_ne_none q)) index cs
    have later := ih (quoteAfter_isQuote quotes c) (index + c.utf8Size)
    exact (next.trans later).trans (map_take_cons index c cs _)

variable {source : List Char} {offset : Nat} {cs : List Char}

theorem drop_utf8 (place : Place source offset cs) : (utf8 source).drop offset = utf8 cs := by
  obtain ⟨before, rfl, rfl⟩ := place
  rw [utf8_append, ← length_utf8, List.drop_left]

theorem between_span (place : Place source offset ('\x7b' :: cs)) (n : Nat) :
    between source offset (offset + 1 + byteSize (cs.take n)) = pure ('\x7b' :: cs.take n) := by
  have whole : Place source offset (('\x7b' :: cs.take n) ++ cs.drop n) := by
    rwa [List.cons_append, List.take_append_drop]
  rw [Nat.add_assoc]
  exact between_place whole

theorem keptAt_eq (place : Place source offset ('\x7b' :: cs)) :
    keptAt source offset =
      pure ((keptSpan cs).map fun n => offset + 1 + byteSize (cs.take n)) := by
  have scanned : spanStop none (offset + 1) (utf8 cs) = _ :=
    @spanStop_utf8 none nofun (offset + 1) cs
  rw [keptAt, drop_utf8 (place_brace place), scanned, keptSpan]
  cases spanLength none cs with
  | none => rfl
  | some n =>
    rw [Option.map_some, Option.filter_some]
    dsimp only
    rw [between_span place, pure_bind]
    split <;> rfl

/-- What has been written when the rest of a template has been, with what is known then. -/
def finished (source out : List Char) (result : List Segment × Notes) : List Char × Memory :=
  (out ++ result.1.flatMap Segment.written, result.2.located source)

theorem finished_cons (out : List Char) (segment : Segment) (result : List Segment × Notes) :
    finished source out (segment :: result.1, result.2) =
      finished source (out ++ segment.written) result := by
  rw [finished, List.flatMap_cons, ← List.append_assoc]
  rfl

theorem finished_plain (inside : Reader) {w : List Char} (closed : ∀ c ∈ w, isOpen c = false)
    (offset : Nat) (out rest : List Char) (notes : Notes) :
    finished source out (segmentsFrom inside offset (w ++ rest) notes) =
      finished source (out ++ w) (segmentsFrom inside (offset + byteSize w) rest notes) := by
  induction w generalizing offset out with
  | nil => rw [List.append_nil]; rfl
  | cons c w ih =>
    have notOpen : c ≠ '\x7b' := by simpa [isOpen] using closed c List.mem_cons_self
    rw [List.cons_append, segmentsFrom_char inside offset notOpen, finished_cons,
      ih fun d member => closed d (List.mem_cons_of_mem c member), byteSize_cons, Nat.add_assoc,
      Segment.written, List.append_assoc, List.singleton_append]

theorem plain_or_brace (cs : List Char) :
    (∀ c ∈ cs, isOpen c = false) ∨
      ∃ w rest, cs = w ++ '\x7b' :: rest ∧ ∀ c ∈ w, isOpen c = false := by
  induction cs with
  | nil => exact .inl nofun
  | cons c cs ih =>
    cases opens : isOpen c with
    | true => exact .inr ⟨[], cs, by rw [isOpen_iff.1 opens]; rfl, nofun⟩
    | false =>
      rcases ih with plain | ⟨w, rest, rfl, plain⟩
      · exact .inl (List.forall_mem_cons.2 ⟨opens, plain⟩)
      · exact .inr ⟨c :: w, rest, rfl, List.forall_mem_cons.2 ⟨opens, plain⟩⟩

theorem convertTurn_brace {w : List Char} (plain : ∀ c ∈ w, isOpen c = false)
    (place : Place source offset (w ++ '\x7b' :: cs)) (out : List Char) (notes : Notes) :
    convertTurn source (offset, out, notes.located source) =
      pure (.inl
        (let result := construct 0 (offset + byteSize w) cs notes
        match result.1, keptSpan cs with
        | some found, _ =>
          (offset + byteSize w + 1 + byteSize (cs.take found.length), out ++ w ++ found.text,
            result.2.located source)
        | none, some n =>
          (offset + byteSize w + 1 + byteSize (cs.take n), out ++ w ++ '\x7b' :: cs.take n,
            (result.2.tell (.keptSpan (offset + byteSize w))).located source)
        | none, none =>
          (offset + byteSize w + 1, out ++ w ++ ['\x7b', '\x7b'], result.2.located source))) := by
  have brace := place_append place
  have lead : (w ++ '\x7b' :: cs).takeWhile (!isOpen ·) = w := by
    rw [List.takeWhile_append_of_pos (by simpa using plain), List.takeWhile_cons_of_neg (by decide),
      List.append_nil]
  have some : (w ++ '\x7b' :: cs).all (!isOpen ·) = false := by
    rw [List.all_append, List.all_cons]
    exact Bool.and_false _
  rw [convertTurn, behind_place place, pure_bind, some, if_neg Bool.false_ne_true, lead]
  dsimp only
  rw [between_place place, pure_bind, constructAt_mirrors 0 notes brace, pure_bind]
  rcases construct 0 (offset + byteSize w) cs notes with ⟨none | found, after⟩
  · dsimp only [foundIn, Option.map_none]
    rw [keptAt_eq brace, pure_bind]
    cases keptSpan cs with
    | none => rfl
    | some n =>
      dsimp only [Option.map_some]
      rw [between_span brace, pure_bind]
      rfl
  · dsimp only [foundIn, Option.map_some, Converted.located]
    rw [place_offset (place_drop brace found.length)]
    rfl

theorem convertTurns_eq (place : Place source offset cs) (out : List Char) (notes : Notes) :
    repeatM (convertTurn source) (offset, out, notes.located source) =
      pure (finished source out (segmentsFrom (construct 0) offset cs notes)) := by
  induction size : cs.length using Nat.strongRecOn generalizing offset cs out notes with
  | ind total ih =>
    rcases plain_or_brace cs with plain | ⟨w, rest, rfl, plain⟩
    · have whole : finished source out (segmentsFrom (construct 0) offset (cs ++ []) notes) = _ :=
        finished_plain (construct 0) plain offset out [] notes
      rw [List.append_nil] at whole
      refine repeat_ends ?_
      rw [convertTurn, behind_place place, pure_bind, if_pos (by simpa using plain), whole,
        segmentsFrom, finished, List.flatMap_nil, List.append_nil]
    · have turn := convertTurn_brace plain place out notes
      have brace := place_append place
      have shorter (n : Nat) : (rest.drop n).length < total := by
        have all := (List.drop_suffix n rest).length_le
        rw [← size, List.length_append, List.length_cons]
        omega
      rw [finished_plain (construct 0) plain, segmentsFrom_brace]
      rcases read : construct 0 (offset + byteSize w) rest notes with ⟨none | found, after⟩
      · rw [read] at turn
        cases span : keptSpan rest with
        | none =>
          rw [span] at turn
          rw [finished_cons]
          exact (repeat_again turn).trans (ih _ (shorter 0) (place_brace brace) _ after rfl)
        | some n =>
          rw [span] at turn
          rw [finished_cons]
          exact (repeat_again turn).trans (ih _ (shorter n) (place_drop brace n) _ _ rfl)
      · rw [read] at turn
        rw [finished_cons]
        exact (repeat_again turn).trans
          (ih _ (shorter found.length) (place_drop brace found.length) _ after rfl)

theorem convertAt_eq (template : String) : convertAt template.toList = pure (convert template) := by
  have run := convertTurns_eq (place_start template.toList) [] ⟨[], []⟩
  rw [convertAt]
  exact congrArg (· >>= _) run

end TitleTemplate.Legacy
