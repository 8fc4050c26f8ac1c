import Mathlib.Tactic.IntervalCases
import Mathlib.Tactic.Linarith
import TitleTemplate.Modifier.Numbers
import TitleTemplate.Proofs.Number.Digits

/-!
Two places behind the point. A quotient is rounded to the nearest hundredth, and zeros at the end are
not written, nor is a point with nothing behind it. The text is read back as the hundredths, and these
are as near to the quotient as half of one.
-/
namespace TitleTemplate

/-! The text. -/

theorem pointed_of_digits {places n : Nat} {whole fraction : List Char}
    (digits : Nat.toDigits 10 n = whole ++ fraction) (some : 0 < whole.length)
    (length : fraction.length = places) :
    Decimal.pointed places n = whole ++ '.' :: fraction := by
  have pad : places + 1 - (whole ++ fraction).length = 0 := by
    rw [List.length_append]
    omega
  have place : (whole ++ fraction).length - places = whole.length := by
    rw [List.length_append, length, Nat.add_sub_cancel]
  simp only [Decimal.pointed, digits, pad, List.replicate_zero, List.nil_append, place,
    List.take_left, List.drop_left]

theorem pointed_two (h : Nat) :
    Decimal.pointed 2 h = Nat.toDigits 10 (h / 100) ++
      ['.', Nat.digitChar (h / 10 % 10), Nat.digitChar (h % 10)] := by
  have last (n : Nat) (some : 0 < n / 10) :
      Nat.toDigits 10 n = Nat.toDigits 10 (n / 10) ++ [Nat.digitChar (n % 10)] := by
    have joined := Nat.toDigits_append_toDigits (b := 10) (n := n / 10) (d := n % 10)
      (by decide) some (Nat.mod_lt n (by decide))
    rw [Nat.div_add_mod, Nat.toDigits_of_lt_base (Nat.mod_lt n (by decide))] at joined
    exact joined.symm
  have single {n : Nat} (small : n < 10) : Nat.toDigits 10 n = [Nat.digitChar n] :=
    Nat.toDigits_of_lt_base small
  have hundred : h / 10 / 10 = h / 100 := Nat.div_div_eq_div_mul h 10 10
  rcases Nat.lt_or_ge h 10 with small | ten
  · have zero : h / 100 = 0 := by omega
    have tens : h / 10 % 10 = 0 := by omega
    have ones : h % 10 = h := by omega
    simp only [Decimal.pointed, single small, zero, tens, ones]
    rfl
  · rcases Nat.lt_or_ge h 100 with small | large
    · have zero : h / 100 = 0 := by omega
      have tens : h / 10 % 10 = h / 10 := by omega
      simp only [Decimal.pointed, last h (by omega), single (show h / 10 < 10 by omega), zero, tens]
      rfl
    · have digits : Nat.toDigits 10 h = Nat.toDigits 10 (h / 100) ++
          [Nat.digitChar (h / 10 % 10), Nat.digitChar (h % 10)] := by
        rw [last h (by omega), last (h / 10) (by omega), hundred, List.append_assoc]
        rfl
      exact pointed_of_digits digits Nat.length_toDigits_pos rfl

theorem dropEnd_same (c : Char) (cs : List Char) : dropEnd c (cs ++ [c]) = dropEnd c cs := by
  simp [dropEnd]

theorem dropEnd_other {c d : Char} (other : d ≠ c) (cs : List Char) :
    dropEnd c (cs ++ [d]) = cs ++ [d] := by
  simp [dropEnd, other]

theorem dropEnd_of_not_mem {c : Char} {cs : List Char} (clean : c ∉ cs) : dropEnd c cs = cs := by
  rcases List.eq_nil_or_concat cs with rfl | ⟨front, d, rfl⟩
  · rfl
  · rw [List.concat_eq_append] at clean ⊢
    exact dropEnd_other (by rintro rfl; exact clean (by simp)) front

theorem digitChar_eq_zero_iff {d : Nat} (small : d < 10) : Nat.digitChar d = '0' ↔ d = 0 := by
  interval_cases d <;> decide

def hundredthsText (h : Nat) : List Char :=
  Nat.toDigits 10 (h / 100) ++
    if h % 100 = 0 then []
    else if h % 10 = 0 then ['.', Nat.digitChar (h / 10 % 10)]
    else ['.', Nat.digitChar (h / 10 % 10), Nat.digitChar (h % 10)]

theorem dropEnd_pointed (h : Nat) :
    dropEnd '.' (dropEnd '0' (Decimal.pointed 2 h)) = hundredthsText h := by
  have tens : h / 10 % 10 < 10 := Nat.mod_lt _ (by decide)
  have ones : h % 10 < 10 := Nat.mod_lt _ (by decide)
  have noPoint {d : Nat} (small : d < 10) : Nat.digitChar d ≠ '.' :=
    ne_of_isDigit (isDigit_digitChar small) (by decide)
  have clean : '.' ∉ Nat.toDigits 10 (h / 100) := fun member =>
    ne_of_isDigit (areDigits_toDigits _ '.' member) (by decide) rfl
  rw [pointed_two, hundredthsText]
  generalize Nat.toDigits 10 (h / 100) = whole at clean
  have three (a b : Char) : whole ++ ['.', a, b] = whole ++ ['.', a] ++ [b] := by simp
  have two (a : Char) : whole ++ ['.', a] = whole ++ ['.'] ++ [a] := by simp
  by_cases last : h % 10 = 0
  · have zero : Nat.digitChar (h % 10) = '0' := (digitChar_eq_zero_iff ones).2 last
    rw [three, zero, dropEnd_same]
    by_cases first : h / 10 % 10 = 0
    · have zero' : Nat.digitChar (h / 10 % 10) = '0' := (digitChar_eq_zero_iff tens).2 first
      rw [two, zero', dropEnd_same, dropEnd_other (by decide), dropEnd_same,
        dropEnd_of_not_mem clean, if_pos (by omega), List.append_nil]
    · have other : Nat.digitChar (h / 10 % 10) ≠ '0' := fun same =>
        first ((digitChar_eq_zero_iff tens).1 same)
      rw [two, dropEnd_other other, dropEnd_other (noPoint tens), if_neg (by omega), if_pos last,
        two]
  · have other : Nat.digitChar (h % 10) ≠ '0' := fun same =>
      last ((digitChar_eq_zero_iff ones).1 same)
    rw [three, dropEnd_other other, dropEnd_other (noPoint ones), if_neg (by omega), if_neg last,
      three]

/-- The digits of a whole number and, where there is a fraction, a point and one or two digits of
which the last is no zero. -/
inductive IsShortDecimal : List Char → Prop where
  | whole (n : Nat) : IsShortDecimal (Nat.toDigits 10 n)
  | pointed (n : Nat) {fraction : List Char} (some : fraction ≠ []) (places : fraction.length ≤ 2)
      (all : AreDigits fraction) (last : fraction.getLast? ≠ .some '0') :
      IsShortDecimal (Nat.toDigits 10 n ++ '.' :: fraction)

def Decimal.rational (d : Decimal) : ℚ := d.significand * 10 ^ d.exponent

theorem isShortDecimal_hundredths (h : Nat) : IsShortDecimal (hundredthsText h) := by
  have tens : h / 10 % 10 < 10 := Nat.mod_lt _ (by decide)
  have ones : h % 10 < 10 := Nat.mod_lt _ (by decide)
  rw [hundredthsText]
  split_ifs with whole last
  · rw [List.append_nil]
    exact .whole _
  · refine .pointed _ (List.cons_ne_nil _ _) (Nat.le_succ 1) ?_ fun same => ?_
    · exact List.forall_mem_singleton.2 (isDigit_digitChar tens)
    · have zero := (digitChar_eq_zero_iff tens).1 (Option.some.inj same)
      omega
  · refine .pointed _ (List.cons_ne_nil _ _) le_rfl ?_ fun same => ?_
    · exact List.forall_mem_cons.2
        ⟨isDigit_digitChar tens, List.forall_mem_singleton.2 (isDigit_digitChar ones)⟩
    · exact last ((digitChar_eq_zero_iff ones).1 (Option.some.inj same))

theorem readDecimal_hundredths (h : Nat) :
    ∃ d, Binary64.readDecimal? (hundredthsText h) = some d ∧ d.rational = h / 100 := by
  have tens : h / 10 % 10 < 10 := Nat.mod_lt _ (by decide)
  have ones : h % 10 < 10 := Nat.mod_lt _ (by decide)
  have digits := areDigits_toDigits (h / 100)
  have read {fraction : List Char} (some : fraction ≠ []) (all : AreDigits fraction) :
      Binary64.readDecimal? (Nat.toDigits 10 (h / 100) ++ '.' :: fraction) =
        .some ⟨ofDigits (Nat.toDigits 10 (h / 100) ++ fraction), 0 - fraction.length⟩ := by
    have pointed := @Binary64.readDecimal_pointed _ _ [] digits all nofun
    rw [List.append_nil, if_neg (fun none => some none.2)] at pointed
    exact pointed
  rw [hundredthsText]
  split_ifs with whole last
  · refine ⟨⟨h / 100, 0⟩, by rw [List.append_nil, Binary64.readDecimal_toDigits], ?_⟩
    have same : h = h / 100 * 100 := by omega
    rw [Decimal.rational, zpow_zero, mul_one, eq_div_iff (by norm_num)]
    exact_mod_cast same.symm
  · have all : AreDigits [Nat.digitChar (h / 10 % 10)] :=
      List.forall_mem_singleton.2 (isDigit_digitChar tens)
    refine ⟨_, read (List.cons_ne_nil _ _) all, ?_⟩
    rw [ofDigits_append _ tens, ofDigits_toDigits]
    have same : (10 * (h / 100) + h / 10 % 10) * 10 = h := by omega
    have cast : ((10 * (h / 100) + h / 10 % 10 : Nat) : ℚ) * 10 = h := by exact_mod_cast same
    rw [Decimal.rational, ← cast]
    norm_num
    ring
  · have all : AreDigits [Nat.digitChar (h / 10 % 10), Nat.digitChar (h % 10)] :=
      List.forall_mem_cons.2
        ⟨isDigit_digitChar tens, List.forall_mem_singleton.2 (isDigit_digitChar ones)⟩
    refine ⟨_, read (List.cons_ne_nil _ _) all, ?_⟩
    have split (whole : List Char) (a b : Char) : whole ++ [a, b] = whole ++ [a] ++ [b] := by simp
    rw [split, ofDigits_append _ ones, ofDigits_append _ tens, ofDigits_toDigits]
    have same : 10 * (10 * (h / 100) + h / 10 % 10) + h % 10 = h := by omega
    rw [same, Decimal.rational]
    norm_num
    ring

/-- The sign is left out where this is printed, so it is for zero only. -/
theorem hundredthsText_ne_zero {h : Nat} (positive : 0 < h) : hundredthsText h ≠ ['0'] := by
  intro same
  obtain ⟨d, read, number⟩ := readDecimal_hundredths h
  have zero : Binary64.readDecimal? ['0'] = some ⟨0, 0⟩ := by decide
  rw [same, zero, Option.some_inj] at read
  rw [← read, Decimal.rational, Nat.cast_zero, zero_mul, eq_comm, div_eq_zero_iff] at number
  rcases number with none | hundred
  · exact positive.ne' (by exact_mod_cast none)
  · exact absurd hundred (by norm_num)

/-! Rounding to hundredths. -/

section Hundredths
variable {num den : Nat} (positive : 0 < den)

include positive

theorem hundredths_congr {num' den' : Nat} (positive' : 0 < den')
    (same : (num : ℚ) / den = num' / den') :
    nearestEven (num * 100) den = nearestEven (num' * 100) den' := by
  have divisor : (den : ℚ) ≠ 0 := by exact_mod_cast positive.ne'
  have divisor' : (den' : ℚ) ≠ 0 := by exact_mod_cast positive'.ne'
  have cross : num * den' = num' * den := by
    rw [div_eq_div_iff divisor divisor'] at same
    exact_mod_cast same
  refine nearestEven_congr positive positive' ?_
  rw [Nat.mul_right_comm, cross, Nat.mul_right_comm]

theorem hundredths_near : |(nearestEven (num * 100) den : ℚ) / 100 - num / den| ≤ 1 / 200 := by
  obtain ⟨above, below⟩ := @nearestEven_near (num * 100) den positive
  generalize nearestEven (num * 100) den = h at above below
  have divisor : (0 : ℚ) < den := by exact_mod_cast positive
  have above' : 2 * (num * 100 : ℚ) ≤ 2 * (h * den) + den := by exact_mod_cast above
  have below' : 2 * (h * den : ℚ) ≤ 2 * (num * 100) + den := by exact_mod_cast below
  rw [abs_le, le_sub_iff_add_le, sub_le_iff_le_add, le_div_iff₀ (by norm_num), ← sub_le_iff_le_add',
    le_div_iff₀ divisor]
  constructor
  · rw [neg_add_eq_sub, sub_mul, sub_le_iff_le_add, div_mul_eq_mul_div, div_le_iff₀ divisor]
    linarith
  · linarith

theorem one_le_hundredths (unit : den ≤ num) :
    1 ≤ (nearestEven (num * 100) den : ℚ) / 100 := by
  have least : 100 ≤ nearestEven (num * 100) den := le_nearestEven positive (by omega)
  rw [one_le_div (by norm_num)]
  exact_mod_cast least

theorem hundredths_le (c : Nat) (room : num ≤ c * den) :
    (nearestEven (num * 100) den : ℚ) / 100 ≤ c := by
  have most : nearestEven (num * 100) den ≤ c * 100 := by
    refine nearestEven_le positive ?_
    rw [Nat.mul_right_comm]
    exact Nat.mul_le_mul_right 100 room
  rw [div_le_iff₀ (by norm_num)]
  exact_mod_cast most

theorem hundredths_lt_iff (c : Nat) :
    (nearestEven (num * 100) den : ℚ) / 100 < c ↔ (num : ℚ) / den < c - 1 / 200 := by
  have divisor : (0 : ℚ) < den := by exact_mod_cast positive
  have less := @nearestEven_lt_iff (num * 100) den (c * 100) positive (by omega)
  rw [div_lt_iff₀ (by norm_num), div_lt_iff₀ divisor]
  calc (nearestEven (num * 100) den : ℚ) < c * 100
    _ ↔ nearestEven (num * 100) den < c * 100 := by exact_mod_cast Iff.rfl
    _ ↔ 2 * (num * 100) + den < 2 * (c * 100 * den) := less
    _ ↔ 2 * (num * 100 : ℚ) + den < 2 * (c * 100 * den) := by exact_mod_cast Iff.rfl
    _ ↔ (num : ℚ) < (c - 1 / 200) * den := by constructor <;> intro h <;> linarith

end Hundredths

end TitleTemplate
