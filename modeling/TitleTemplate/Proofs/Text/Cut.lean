import Mathlib.Data.List.Infix
import TitleTemplate.Text.Position

/-!
Cutting a text to a number of bytes. A cut is the longest beginning in whole characters that fits,
so a text that fits is not changed, and what comes after a text that is too long already has no
part in its cut.
-/
namespace TitleTemplate

theorem byteSize_append (a b : List Char) : byteSize (a ++ b) = byteSize a + byteSize b := by
  induction a with
  | nil => rw [List.nil_append, byteSize, Nat.zero_add]
  | cons c a ih => rw [List.cons_append, byteSize, byteSize, ih, Nat.add_assoc]

theorem byteSize_cons (c : Char) (cs : List Char) :
    byteSize (c :: cs) = c.utf8Size + byteSize cs := rfl

theorem byteSize_le_of_sublist {a b : List Char} (within : List.Sublist a b) :
    byteSize a ≤ byteSize b := by
  induction within with
  | slnil => exact Nat.le_refl _
  | cons c within ih => exact Nat.le_add_left_of_le ih
  | cons_cons c within ih => exact Nat.add_le_add_left ih _

theorem byteSize_reverse (cs : List Char) : byteSize cs.reverse = byteSize cs := by
  induction cs with
  | nil => rfl
  | cons c cs ih =>
    rw [List.reverse_cons, byteSize_append, ih, byteSize_cons, byteSize_cons, byteSize,
      Nat.add_zero, Nat.add_comm]

theorem utf8ByteSize_eq_byteSize (s : String) : s.utf8ByteSize = byteSize s.toList := by
  have ofList : ∀ cs, (String.ofList cs).utf8ByteSize = byteSize cs := by
    intro cs
    induction cs with
    | nil => rfl
    | cons c cs ih =>
      rw [String.ofList_cons, String.utf8ByteSize_append, String.utf8ByteSize_singleton, ih,
        byteSize_cons]
  rw [← ofList, String.ofList_toList]

theorem byteSize_cut (room : Nat) (cs : List Char) : byteSize (cut room cs) ≤ room := by
  induction cs generalizing room with
  | nil => simp [cut, byteSize]
  | cons c cs ih =>
    unfold cut
    split
    · have rest := ih (room - c.utf8Size)
      rw [byteSize_cons]
      omega
    · simp [byteSize]

theorem isPrefix_cut (room : Nat) (cs : List Char) : cut room cs <+: cs := by
  induction cs generalizing room with
  | nil => simp [cut]
  | cons c cs ih =>
    unfold cut
    split
    · exact (List.prefix_cons_inj c).2 (ih (room - c.utf8Size))
    · exact List.nil_prefix

theorem prefix_cut {room : Nat} {p cs : List Char} (begins : p <+: cs)
    (fits : byteSize p ≤ room) : p <+: cut room cs := by
  induction cs generalizing room p with
  | nil => simpa [cut] using begins
  | cons c cs ih =>
    cases p with
    | nil => exact List.nil_prefix
    | cons d p =>
      obtain ⟨rfl, later⟩ := List.cons_prefix_cons.1 begins
      rw [byteSize_cons] at fits
      rw [cut, if_pos (by omega)]
      exact (List.prefix_cons_inj d).2 (ih later (by omega))

theorem cut_of_fits {room : Nat} {cs : List Char} (fits : byteSize cs ≤ room) :
    cut room cs = cs :=
  List.IsPrefix.eq_of_length_le (isPrefix_cut room cs)
    (prefix_cut (List.prefix_refl cs) fits).length_le

theorem cut_append_of_fits {room : Nat} {a : List Char} (fits : byteSize a ≤ room)
    (b : List Char) : cut room (a ++ b) = a ++ cut (room - byteSize a) b := by
  induction a generalizing room with
  | nil => simp [byteSize]
  | cons c a ih =>
    rw [byteSize_cons] at fits
    rw [List.cons_append, cut, if_pos (by omega), ih (by omega), byteSize_cons, Nat.sub_sub,
      List.cons_append]

theorem cut_append_of_over {room : Nat} {a : List Char} (above : room < byteSize a)
    (b : List Char) : cut room (a ++ b) = cut room a := by
  induction a generalizing room with
  | nil => simp [byteSize] at above
  | cons c a ih =>
    rw [byteSize_cons] at above
    rw [List.cons_append, cut, cut]
    split
    · rw [ih (by omega)]
    · rfl

theorem toList_cutString (room : Nat) (s : String) :
    (cutString room s).toList = cut room s.toList := by
  unfold cutString
  split
  · rename_i fits
    rw [utf8ByteSize_eq_byteSize] at fits
    rw [cut_of_fits fits]
  · rw [String.toList_ofList]

theorem cutString_of_fits {room : Nat} {s : String} (fits : s.utf8ByteSize ≤ room) :
    cutString room s = s := if_pos fits

theorem cutString_append_of_fits {room : Nat} {s : String} (fits : s.utf8ByteSize ≤ room)
    (t : String) : cutString room (s ++ t) = s ++ cutString (room - s.utf8ByteSize) t := by
  rw [utf8ByteSize_eq_byteSize] at fits ⊢
  rw [← String.toList_inj, toList_cutString, String.toList_append, String.toList_append,
    toList_cutString, cut_append_of_fits fits]

theorem cutString_append_of_over {room : Nat} {s : String} (above : room < s.utf8ByteSize)
    (t : String) : cutString room (s ++ t) = cutString room s := by
  rw [utf8ByteSize_eq_byteSize] at above
  rw [← String.toList_inj, toList_cutString, toList_cutString, String.toList_append,
    cut_append_of_over above]

end TitleTemplate
