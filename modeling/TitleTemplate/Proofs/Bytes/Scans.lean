import TitleTemplate.Proofs.Bytes.Offsets
import TitleTemplate.Proofs.Template.Phrases

/-!
Scans over the bytes of a text. All that a scan looks for is written with one byte, and the bytes of
any other character mean nothing to it; so it finds what the scan over characters finds, at the size
of what is before it. A backslash that hides only the first byte of a character hides enough.
-/
namespace TitleTemplate

def scanTo (stop : UInt8) (hidden : Bool) : List UInt8 → Nat × Bool
  | [] => (0, hidden)
  | b :: bs =>
    if !hidden && b == stop then (0, hidden)
    else
      let later := scanTo stop (!hidden && b == mark '\\') bs
      (later.1 + 1, later.2)

def closeOffset (bs : List UInt8) : Option Nat :=
  let found := (scanTo (mark '\x7d') false bs).1
  if found < bs.length then some found else none

section Scan
variable {stop : Char} (narrow : stop.toNat < 128)
include narrow

theorem scanTo_high {hidden : Bool} {hs : List UInt8} (some : hs ≠ [])
    (high : ∀ b ∈ hs, 128 ≤ b.toNat) (bs : List UInt8) :
    scanTo (mark stop) hidden (hs ++ bs) =
      ((scanTo (mark stop) false bs).1 + hs.length, (scanTo (mark stop) false bs).2) := by
  induction hs generalizing hidden with
  | nil => exact absurd rfl some
  | cons b hs ih =>
    have notStop := ne_mark (high b List.mem_cons_self) narrow
    have other := ne_mark (high b List.mem_cons_self) (c := '\\') (by decide)
    have next : scanTo (mark stop) hidden (b :: hs ++ bs) =
        ((scanTo (mark stop) false (hs ++ bs)).1 + 1, (scanTo (mark stop) false (hs ++ bs)).2) := by
      rw [List.cons_append, scanTo, beq_false_of_ne notStop, beq_false_of_ne other, Bool.and_false,
        if_neg (by decide)]
    rw [next]
    cases hs with
    | nil => rfl
    | cons c hs =>
      rw [ih (by simp) fun d member => high d (List.mem_cons_of_mem b member), List.length_cons]
      rfl

theorem scanTo_char (hidden : Bool) (c : Char) (bs : List UInt8) :
    scanTo (mark stop) hidden (String.utf8EncodeChar c ++ bs) =
      if !hidden && c == stop then (0, hidden)
      else
        let later := scanTo (mark stop) (!hidden && c == '\\') bs
        (later.1 + c.utf8Size, later.2) := by
  by_cases one : c.toNat < 128
  · have same (d : Char) (other : d.toNat < 128) : (mark c == mark d) = (c == d) := by
      rw [Bool.eq_iff_iff, beq_iff_eq, beq_iff_eq, mark_inj one other]
    rw [encode_narrow one, List.singleton_append, scanTo, same stop narrow, same '\\' (by decide),
      utf8Size_narrow one]
  · have high := encode_wide (Nat.le_of_not_lt one)
    have apart (d : Char) (other : d.toNat < 128) : (c == d) = false := by
      refine beq_false_of_ne ?_
      rintro rfl
      exact one other
    rw [scanTo_high narrow String.utf8EncodeChar_ne_nil high, apart stop narrow,
      apart '\\' (by decide), String.length_utf8EncodeChar, Bool.and_false, if_neg (by decide)]

theorem scanTo_utf8 (plain : stop ≠ '\\') (cs : List Char) :
    scanTo (mark stop) false (utf8 cs) =
      match splitQuoted stop cs with
      | some (inner, _) => (byteSize inner, false)
      | none => (byteSize cs, dangles cs) := by
  fun_induction splitQuoted stop cs with
  | case1 => rfl
  | case2 c cs ih =>
    have stops : ('\\' == stop) = false := beq_false_of_ne plain.symm
    rw [utf8_cons, scanTo_char narrow, utf8_cons, scanTo_char narrow, stops]
    simp only [Bool.not_false, Bool.and_false, Bool.true_and, Bool.false_eq_true, ↓reduceIte,
      beq_self_eq_true, Bool.not_true, Bool.false_and, ih]
    cases splitQuoted stop cs <;> simp [byteSize_cons, dangles] <;> omega
  | case3 cs noEscape =>
    rw [utf8_cons, scanTo_char narrow]
    simp [byteSize]
  | case4 c cs noEscape other ih =>
    rw [utf8_cons, scanTo_char narrow, beq_false_of_ne other]
    by_cases escape : c = '\\'
    · -- The backslash is the last character there is.
      subst escape
      cases cs with
      | cons d cs => exact absurd rfl (noEscape d cs rfl)
      | nil => rfl
    · rw [beq_false_of_ne escape, dangles_cons escape]
      simp only [Bool.and_false, Bool.false_eq_true, ↓reduceIte, ih]
      cases splitQuoted stop cs <;> simp [byteSize_cons] <;> omega

end Scan

theorem splitAtClose_eq_splitQuoted (cs : List Char) :
    splitAtClose cs = splitQuoted '\x7d' cs := by
  fun_induction splitAtClose cs with
  | case1 => rfl
  | case2 cs => simp [splitQuoted]
  | case3 c cs ih => rw [splitQuoted, ih]
  | case4 c cs notClose noEscape ih =>
    rw [splitQuoted, if_neg notClose, ih]
    exact noEscape

theorem byteSize_inner {quote : Char} {cs inner rest : List Char}
    (split : splitQuoted quote cs = some (inner, rest)) :
    byteSize cs = byteSize inner + quote.utf8Size + byteSize rest := by
  rw [← splitQuoted_append split, byteSize_append, byteSize_cons, Nat.add_assoc]

theorem closeOffset_utf8 (cs : List Char) :
    closeOffset (utf8 cs) = (splitAtClose cs).map fun parts => byteSize parts.1 := by
  rw [closeOffset, scanTo_utf8 (by decide) (by decide), length_utf8, splitAtClose_eq_splitQuoted]
  cases split : splitQuoted '\x7d' cs with
  | none => simp
  | some parts =>
    have sizes := byteSize_inner split
    have positive := '\x7d'.utf8Size_pos
    exact if_pos (by dsimp only; omega)

theorem findIdx_open (cs : List Char) :
    (utf8 cs).findIdx (· == mark '\x7b') = byteSize (cs.takeWhile (!isOpen ·)) := by
  induction cs with
  | nil => rfl
  | cons c cs ih =>
    by_cases opens : isOpen c = true
    · obtain rfl := isOpen_iff.1 opens
      rfl
    · have other : c ≠ '\x7b' := fun same => opens (isOpen_iff.2 same)
      have none : (String.utf8EncodeChar c).findIdx (· == mark '\x7b') =
          (String.utf8EncodeChar c).length := by
        refine List.findIdx_eq_length.2 fun b member => beq_false_of_ne ?_
        by_cases narrow : c.toNat < 128
        · rw [encode_narrow narrow, List.mem_singleton] at member
          rw [member]
          exact mt (mark_inj narrow (by decide)).1 other
        · exact ne_mark (encode_wide (Nat.le_of_not_lt narrow) b member) (by decide)
      rw [Bool.not_eq_true] at opens
      rw [utf8_cons, List.findIdx_append, none, if_neg (Nat.lt_irrefl _), ih,
        String.length_utf8EncodeChar, List.takeWhile_cons, opens, Bool.not_false, if_pos rfl,
        byteSize_cons, Nat.add_comm]

end TitleTemplate
