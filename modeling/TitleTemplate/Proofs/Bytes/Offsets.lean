import Mathlib.Data.List.Basic
import TitleTemplate.Proofs.Text.Cut

/-!
Texts by the bytes of their UTF-8 encoding. A text can be divided at an offset only where a
character begins or the text ends. A program that divides texts at offsets ends at the first one
where this is not so; every division at the size of a beginning of the text is sound.
-/
namespace TitleTemplate

def utf8 (cs : List Char) : List UInt8 := cs.flatMap String.utf8EncodeChar

def mark (c : Char) : UInt8 := UInt8.ofNat c.toNat

/-- An offset at which a text cannot be divided. -/
structure BadOffset where
  text : List Char
  offset : Nat

/-- Programs that divide texts: they end with a result or at a bad offset. -/
abbrev Sliced (α : Type) : Type := Except BadOffset α

def divideAt (offset : Nat) (cs : List Char) : Sliced (List Char × List Char) :=
  if String.Pos.Raw.IsValid (String.ofList cs) ⟨offset⟩ then
    let before := cut offset cs
    pure (before, cs.drop before.length)
  else throw ⟨cs, offset⟩

def upTo (source : List Char) (offset : Nat) : Sliced (List Char) := do
  return (← divideAt offset source).1

def behind (source : List Char) (offset : Nat) : Sliced (List Char) := do
  return (← divideAt offset source).2

def between (source : List Char) (start stop : Nat) : Sliced (List Char) := do
  behind (← upTo source stop) start

section Turns
variable {α β : Type} [Nonempty β] {turn : α → Sliced (α ⊕ β)} {a : α}

theorem repeat_again {next : α} (goes : turn a = pure (.inl next)) :
    repeatM turn a = repeatM turn next := by
  rw [repeatM_eq_of_monadTail, repeatM.body, goes, pure_bind]

theorem repeat_ends {b : β} (ends : turn a = pure (.inr b)) : repeatM turn a = pure b := by
  rw [repeatM_eq_of_monadTail, repeatM.body, ends, pure_bind]

end Turns

theorem utf8_nil : utf8 [] = [] := rfl

theorem utf8_cons (c : Char) (cs : List Char) :
    utf8 (c :: cs) = String.utf8EncodeChar c ++ utf8 cs :=
  List.flatMap_cons

theorem utf8_append (a b : List Char) : utf8 (a ++ b) = utf8 a ++ utf8 b := List.flatMap_append

theorem length_utf8 (cs : List Char) : (utf8 cs).length = byteSize cs := by
  induction cs with
  | nil => rfl
  | cons c cs ih =>
    rw [utf8_cons, List.length_append, String.length_utf8EncodeChar, ih, byteSize_cons]

theorem byteSize_eq_zero {cs : List Char} : byteSize cs = 0 ↔ cs = [] := by
  cases cs with
  | nil => simp [byteSize]
  | cons c cs =>
    have positive := c.utf8Size_pos
    rw [byteSize_cons]
    exact iff_of_false (by omega) (List.cons_ne_nil c cs)

theorem encode_narrow {c : Char} (narrow : c.toNat < 128) :
    String.utf8EncodeChar c = [mark c] := by
  have bound : c.val.toNat ≤ 0x7f := Nat.le_of_lt_succ narrow
  rw [String.utf8EncodeChar, if_pos bound]
  rfl

theorem encode_wide {c : Char} (wide : 128 ≤ c.toNat) :
    ∀ b ∈ String.utf8EncodeChar c, 128 ≤ b.toNat := by
  have bound : ¬ c.val.toNat ≤ 0x7f := by
    change ¬ c.toNat ≤ 127
    omega
  intro b member
  simp only [String.utf8EncodeChar, bound, if_false] at member
  split_ifs at member
  all_goals
    simp only [List.mem_cons, List.not_mem_nil, or_false] at member
    rcases member with rfl | rfl | rfl | rfl <;>
      · rw [UInt8.toNat_ofNat']
        omega

theorem utf8_narrow {c : Char} (narrow : c.toNat < 128) (cs : List Char) :
    utf8 (c :: cs) = mark c :: utf8 cs := by
  rw [utf8_cons, encode_narrow narrow, List.singleton_append]

theorem utf8_ne_nil (c : Char) (cs : List Char) : utf8 (c :: cs) ≠ [] := by
  rw [utf8_cons]
  exact List.append_ne_nil_of_left_ne_nil String.utf8EncodeChar_ne_nil _

theorem utf8Size_narrow {c : Char} (narrow : c.toNat < 128) : c.utf8Size = 1 := by
  rw [← String.length_utf8EncodeChar, encode_narrow narrow, List.length_singleton]

theorem toNat_mark {c : Char} (narrow : c.toNat < 128) : (mark c).toNat = c.toNat := by
  rw [mark, UInt8.toNat_ofNat']
  omega

theorem mark_inj {c d : Char} (narrow : c.toNat < 128) (other : d.toNat < 128) :
    mark c = mark d ↔ c = d := by
  refine ⟨fun same => ?_, congrArg mark⟩
  have sizes := congrArg UInt8.toNat same
  rw [toNat_mark narrow, toNat_mark other] at sizes
  exact Char.toNat_inj.1 sizes

theorem ne_mark {b : UInt8} (high : 128 ≤ b.toNat) {c : Char} (narrow : c.toNat < 128) :
    b ≠ mark c := by
  rintro rfl
  rw [toNat_mark narrow] at high
  omega

theorem head?_utf8 (cs : List Char) {c : Char} (narrow : c.toNat < 128) :
    (utf8 cs).head? = some (mark c) ↔ cs.head? = some c := by
  cases cs with
  | nil => simp [utf8]
  | cons d cs =>
    rw [utf8_cons, List.head?_cons, Option.some_inj]
    by_cases other : d.toNat < 128
    · rw [encode_narrow other, List.singleton_append, List.head?_cons, Option.some_inj,
        mark_inj other narrow]
    · refine iff_of_false ?_ fun same => other (same ▸ narrow)
      have high := encode_wide (Nat.le_of_not_lt other)
      rcases List.exists_cons_of_ne_nil (String.utf8EncodeChar_ne_nil (c := d)) with ⟨b, bs, shape⟩
      rw [shape] at high ⊢
      rw [List.cons_append, List.head?_cons, Option.some_inj]
      exact ne_mark (high b List.mem_cons_self) narrow

/-! Sound divisions. -/

theorem isValid_byteSize (a b : List Char) :
    String.Pos.Raw.IsValid (String.ofList (a ++ b)) ⟨byteSize a⟩ := by
  rw [String.Pos.Raw.isValid_ofList]
  refine ⟨a.length, ?_⟩
  rw [List.take_left, utf8ByteSize_eq_byteSize, String.toList_ofList]

theorem isValid_iff {source : List Char} {n : Nat} :
    String.Pos.Raw.IsValid (String.ofList source) ⟨n⟩ ↔ ∃ p, p <+: source ∧ byteSize p = n := by
  rw [String.Pos.Raw.isValid_ofList]
  constructor
  · rintro ⟨i, size⟩
    rw [utf8ByteSize_eq_byteSize, String.toList_ofList] at size
    exact ⟨source.take i, List.take_prefix i source, size.symm⟩
  · rintro ⟨p, ⟨rest, rfl⟩, rfl⟩
    exact (String.Pos.Raw.isValid_ofList ..).1 (isValid_byteSize p rest)

theorem cut_byteSize (a b : List Char) : cut (byteSize a) (a ++ b) = a := by
  have nothing : cut 0 b = [] := by
    cases b with
    | nil => rfl
    | cons c b =>
      have positive := c.utf8Size_pos
      rw [cut, if_neg (by omega)]
  rw [cut_append_of_fits (Nat.le_refl _), Nat.sub_self, nothing, List.append_nil]

theorem divideAt_append (a b : List Char) : divideAt (byteSize a) (a ++ b) = pure (a, b) := by
  rw [divideAt, if_pos (isValid_byteSize a b)]
  simp only [cut_byteSize, List.drop_left]

/-- A text can be divided at the size of a beginning, and nowhere else. -/
theorem divideAt_eq_pure_iff {offset : Nat} {cs before rest : List Char} :
    divideAt offset cs = pure (before, rest) ↔ cs = before ++ rest ∧ offset = byteSize before := by
  constructor
  · intro divided
    rw [divideAt] at divided
    split at divided
    · rename_i sound
      obtain ⟨p, ⟨tail, rfl⟩, rfl⟩ := isValid_iff.1 sound
      obtain ⟨rfl, rfl⟩ := Prod.mk.inj (Except.ok.inj divided)
      rw [cut_byteSize, List.drop_left]
      exact ⟨rfl, rfl⟩
    · cases divided
  · rintro ⟨rfl, rfl⟩
    exact divideAt_append before rest

example : divideAt 1 ['é'] = throw ⟨['é'], 1⟩ := rfl

theorem upTo_append (a b : List Char) : upTo (a ++ b) (byteSize a) = pure a := by
  rw [upTo, divideAt_append, pure_bind]

theorem behind_append (a b : List Char) : behind (a ++ b) (byteSize a) = pure b := by
  rw [behind, divideAt_append, pure_bind]

theorem between_append (a b c : List Char) :
    between (a ++ (b ++ c)) (byteSize a) (byteSize a + byteSize b) = pure b := by
  rw [between, ← byteSize_append, ← List.append_assoc, upTo_append, pure_bind, behind_append]

theorem between_inside {a b : Char} (first : a.utf8Size = 1) (last : b.utf8Size = 1)
    (inner : List Char) :
    between (a :: (inner ++ [b])) 1 (byteSize (a :: (inner ++ [b])) - 1) = pure inner := by
  have stop : byteSize (a :: (inner ++ [b])) - 1 = byteSize [a] + byteSize inner := by
    simp only [byteSize, byteSize_append, first, last]
    omega
  have start : byteSize [a] = 1 := first
  have found := between_append [a] inner [b]
  rwa [← stop, start] at found

end TitleTemplate
