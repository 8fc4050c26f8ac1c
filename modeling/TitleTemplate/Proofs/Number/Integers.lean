import Mathlib.Algebra.Order.Ring.Int
import TitleTemplate.Number.Binary64

/-!
Integers as binary floating-point numbers. An integer becomes the nearest one that has at most 53
significant bits, of two equally near ones the even one. This keeps the order of integers but may
make different ones equal; below `2 ^ 53` every integer stays what it is.
-/
namespace TitleTemplate

/-! Rounding a quotient. -/

theorem div_le_nearestEven (num den : Nat) : num / den ≤ nearestEven num den := by
  simp only [nearestEven]
  split_ifs <;> omega

theorem nearestEven_le_succ (num den : Nat) : nearestEven num den ≤ num / den + 1 := by
  simp only [nearestEven]
  split_ifs <;> omega

theorem le_nearestEven {num den c : Nat} (positive : 0 < den) (enough : c * den ≤ num) :
    c ≤ nearestEven num den :=
  ((Nat.le_div_iff_mul_le positive).2 enough).trans (div_le_nearestEven num den)

theorem nearestEven_mul {den : Nat} (positive : 0 < den) (c : Nat) :
    nearestEven (c * den) den = c := by
  rw [nearestEven, Nat.mul_mod_left, Nat.mul_div_cancel c positive]
  exact if_pos positive

theorem nearestEven_mono {num more den : Nat} (le : num ≤ more) :
    nearestEven num den ≤ nearestEven more den := by
  rcases (Nat.div_le_div_right le : num / den ≤ more / den).lt_or_eq with less | same
  · exact (nearestEven_le_succ num den).trans (less.trans_le (div_le_nearestEven more den))
  · -- With the same quotient the larger number has the larger rest.
    have first := Nat.div_add_mod num den
    have second := Nat.div_add_mod more den
    rw [same] at first
    simp only [nearestEven, same]
    split_ifs <;> omega

theorem nearestEven_le {num den c : Nat} (positive : 0 < den) (room : num ≤ c * den) :
    nearestEven num den ≤ c :=
  (nearestEven_mono room).trans (nearestEven_mul positive c).le

theorem nearestEven_cases {num den : Nat} (positive : 0 < den) :
    ∃ whole rest, num = whole + rest ∧ rest < den ∧
      (nearestEven num den * den = whole ∧ 2 * rest ≤ den ∨
        nearestEven num den * den = whole + den ∧ den ≤ 2 * rest) ∧
      (nearestEven num den % 2 = 1 → 2 * rest ≠ den) := by
  refine ⟨num / den * den, num % den, (Nat.div_add_mod' num den).symm,
    Nat.mod_lt num positive, ?_⟩
  have next : (num / den + 1) * den = num / den * den + den := Nat.succ_mul _ _
  simp only [nearestEven]
  split_ifs with below above
  · omega
  · omega
  · rcases Nat.mod_two_eq_zero_or_one (num / den) with even | odd
    · rw [even, Nat.add_zero]
      omega
    · rw [odd]
      omega

theorem nearestEven_near {num den : Nat} (positive : 0 < den) :
    2 * num ≤ 2 * (nearestEven num den * den) + den ∧
      2 * (nearestEven num den * den) ≤ 2 * num + den := by
  obtain ⟨whole, rest, same, less, place, -⟩ := @nearestEven_cases num den positive
  omega

/-- What a quotient is rounded to is as near to it as half of the denominator, and at just that
distance it is even. -/
theorem nearestEven_eq_iff {num den c : Nat} (positive : 0 < den) :
    nearestEven num den = c ↔ 2 * num ≤ 2 * (c * den) + den ∧ 2 * (c * den) ≤ 2 * num + den ∧
      (c % 2 = 1 → 2 * num ≠ 2 * (c * den) + den ∧ 2 * (c * den) ≠ 2 * num + den) := by
  obtain ⟨whole, rest, same, less, place, even⟩ := @nearestEven_cases num den positive
  generalize nearestEven num den = d at place even
  have step {a b : Nat} (before : a < b) : a * den + den ≤ b * den := by
    have := Nat.mul_le_mul_right den before
    rwa [Nat.succ_mul] at this
  constructor
  · rintro rfl
    omega
  · rintro ⟨above, below, strict⟩
    rcases lt_trichotomy d c with before | equal | after
    · have near := step before
      rcases (Nat.succ_le_of_lt before).lt_or_eq with far | next
      · have := step far
        rw [Nat.succ_mul] at this
        omega
      · omega
    · exact equal
    · have near := step after
      rcases (Nat.succ_le_of_lt after).lt_or_eq with far | next
      · have := step far
        rw [Nat.succ_mul] at this
        omega
      · omega

theorem nearestEven_lt_iff {num den c : Nat} (positive : 0 < den) (even : c % 2 = 0) :
    nearestEven num den < c ↔ 2 * num + den < 2 * (c * den) := by
  have near := @nearestEven_near num den positive
  obtain ⟨-, -, strict⟩ := (nearestEven_eq_iff positive).1 (@rfl _ (nearestEven num den))
  generalize nearestEven num den = d at near strict
  constructor
  · intro below
    rcases (Nat.succ_le_of_lt below).lt_or_eq with far | next
    · have products := Nat.mul_le_mul_right den far
      rw [Nat.succ_mul, Nat.succ_mul] at products
      omega
    · have product : c * den = d * den + den := by rw [← next, Nat.succ_mul]
      have odd := strict (by omega)
      omega
  · intro less
    by_contra beyond
    have products := Nat.mul_le_mul_right den (Nat.not_lt.1 beyond)
    omega

theorem nearestEven_congr {num den num' den' : Nat} (positive : 0 < den) (positive' : 0 < den')
    (same : num * den' = num' * den) : nearestEven num den = nearestEven num' den' := by
  have scaled {c : Nat} (some : 0 < c) (a b : Nat) :
      nearestEven (a * c) (b * c) = nearestEven a b := by
    simp only [nearestEven, Nat.mul_mod_mul_right, Nat.mul_div_mul_right _ _ some, ← Nat.mul_assoc,
      Nat.mul_lt_mul_right some]
  rw [← scaled positive' num den, same, Nat.mul_comm den den', scaled positive]

/-! Rounding an integer. -/

/-- How many binary places of a number are beyond the first 53. -/
def excessPlaces (n : Nat) : Nat := n.log2 - 52

def roundedNat (n : Nat) : Nat :=
  nearestEven n (Nat.pow 2 (excessPlaces n)) * Nat.pow 2 (excessPlaces n)

def roundedInt (n : Int) : Int := if n < 0 then -(roundedNat n.natAbs : Int) else roundedNat n.natAbs

theorem pow_excess_pos (n : Nat) : 0 < Nat.pow 2 (excessPlaces n) := Nat.pow_pos (by decide)

theorem pow_split {k j : Nat} (le : k ≤ j) : Nat.pow 2 j = Nat.pow 2 (j - k) * Nat.pow 2 k := by
  rw [Nat.pow_eq, Nat.pow_eq, Nat.pow_eq, ← Nat.pow_add, Nat.sub_add_cancel le]

theorem roundedNat_le_pow {n j : Nat} (places : excessPlaces n ≤ j) (le : n ≤ Nat.pow 2 j) :
    roundedNat n ≤ Nat.pow 2 j := by
  rw [pow_split places] at le ⊢
  exact Nat.mul_le_mul_right _ (nearestEven_le (pow_excess_pos n) le)

theorem pow_le_roundedNat {n j : Nat} (places : excessPlaces n ≤ j) (le : Nat.pow 2 j ≤ n) :
    Nat.pow 2 j ≤ roundedNat n := by
  rw [pow_split places] at le ⊢
  exact Nat.mul_le_mul_right _ (le_nearestEven (pow_excess_pos n) le)

theorem log2_mono {n m : Nat} (le : n ≤ m) : n.log2 ≤ m.log2 := by
  rcases Nat.eq_zero_or_pos n with rfl | positive
  · exact Nat.zero_le _
  · exact (Nat.le_log2 (positive.trans_le le).ne').2 ((Nat.log2_self_le positive.ne').trans le)

theorem roundedNat_mono {n m : Nat} (le : n ≤ m) : roundedNat n ≤ roundedNat m := by
  rcases Nat.eq_zero_or_pos m with rfl | positive
  · rw [Nat.le_zero.1 le]
  have logs : n.log2 ≤ m.log2 := log2_mono le
  by_cases same : excessPlaces n = excessPlaces m
  · rw [roundedNat, roundedNat, same]
    exact Nat.mul_le_mul_right _ (nearestEven_mono le)
  · -- A power of two lies between the two numbers, and rounding passes none.
    have apart : n.log2 + 1 ≤ m.log2 := by
      simp only [excessPlaces] at same
      omega
    have first : roundedNat n ≤ Nat.pow 2 (n.log2 + 1) :=
      roundedNat_le_pow (by rw [excessPlaces]; omega) Nat.lt_log2_self.le
    have second : Nat.pow 2 m.log2 ≤ roundedNat m :=
      pow_le_roundedNat (by rw [excessPlaces]; omega) (Nat.log2_self_le positive.ne')
    exact first.trans ((Nat.pow_le_pow_right (by decide) apart).trans second)

theorem roundedNat_pow (j : Nat) : roundedNat (Nat.pow 2 j) = Nat.pow 2 j := by
  have places : excessPlaces (Nat.pow 2 j) ≤ j := by
    rw [excessPlaces, Nat.pow_eq, Nat.log2_two_pow]
    omega
  exact (roundedNat_le_pow places le_rfl).antisymm (pow_le_roundedNat places le_rfl)

theorem roundedNat_of_small {n : Nat} (small : n ≤ Nat.pow 2 53) : roundedNat n = n := by
  rcases small.lt_or_eq with less | rfl
  · have places : excessPlaces n = 0 := by
      rcases Nat.eq_zero_or_pos n with rfl | positive
      · rfl
      · have := (Nat.log2_lt positive.ne').2 less
        rw [excessPlaces]
        omega
    have whole := nearestEven_mul Nat.one_pos n
    rw [Nat.mul_one] at whole
    rw [roundedNat, places]
    exact (Nat.mul_one _).trans whole
  · exact roundedNat_pow 53

theorem roundedNat_near {n : Nat} (small : n ≤ Nat.pow 2 63) :
    roundedNat n ≤ n + 512 ∧ n ≤ roundedNat n + 512 := by
  rcases small.lt_or_eq with less | rfl
  · have places : excessPlaces n ≤ 10 := by
      rcases Nat.eq_zero_or_pos n with rfl | positive
      · decide
      · have := (Nat.log2_lt positive.ne').2 less
        rw [excessPlaces]
        omega
    have step : Nat.pow 2 (excessPlaces n) ≤ Nat.pow 2 10 :=
      Nat.pow_le_pow_right (by decide) places
    have bound : Nat.pow 2 10 = 1024 := rfl
    have near := @nearestEven_near n _ (pow_excess_pos n)
    rw [← roundedNat] at near
    omega
  · have := roundedNat_pow 63
    omega

/-! Rounding with a sign. -/

theorem roundedInt_mono {n m : Int} (le : n ≤ m) : roundedInt n ≤ roundedInt m := by
  simp only [roundedInt]
  split_ifs with negative negative' negative'
  · have := roundedNat_mono (show m.natAbs ≤ n.natAbs by omega)
    omega
  · omega
  · omega
  · have := roundedNat_mono (show n.natAbs ≤ m.natAbs by omega)
    omega

theorem roundedInt_of_small {n : Int} (small : n.natAbs ≤ Nat.pow 2 53) : roundedInt n = n := by
  rw [roundedInt, roundedNat_of_small small]
  split <;> omega

theorem eq_of_roundedInt_eq {n m : Int} (small : n.natAbs < Nat.pow 2 53)
    (same : roundedInt n = roundedInt m) : n = m := by
  have here : roundedInt n = n := roundedInt_of_small small.le
  rcases lt_trichotomy n m with less | equal | more
  · have next : roundedInt (n + 1) = n + 1 := roundedInt_of_small (by omega)
    have := roundedInt_mono (show n + 1 ≤ m by omega)
    omega
  · exact equal
  · have next : roundedInt (n - 1) = n - 1 := roundedInt_of_small (by omega)
    have := roundedInt_mono (show m ≤ n - 1 by omega)
    omega

theorem roundedInt_near {n : Int} (small : n.natAbs ≤ Nat.pow 2 63) :
    (roundedInt n - n).natAbs ≤ 512 := by
  have near := roundedNat_near small
  rw [roundedInt]
  split <;> omega

namespace Binary64

/-! Comparing finite numbers in a common unit. -/

theorem compare_mul_pos {c : Int} (positive : 0 < c) (a b : Int) :
    compare (a * c) (b * c) = compare a b := by
  have less : a * c < b * c ↔ a < b := Int.mul_lt_mul_right positive
  have same : a * c = b * c ↔ a = b := Int.mul_eq_mul_right_iff positive.ne'
  simp only [compare, compareOfLessAndEq, less, same]

theorem inUnits_lower {unit lower e : Int} (le : lower ≤ unit) (fits : unit ≤ e) (negative : Bool)
    (m : Nat) :
    inUnits lower negative m e = inUnits unit negative m e * Nat.pow 2 (unit - lower).toNat := by
  have places : (e - lower).toNat = (e - unit).toNat + (unit - lower).toNat := by omega
  have power : Nat.pow 2 (e - lower).toNat =
      Nat.pow 2 (e - unit).toNat * Nat.pow 2 (unit - lower).toNat := by
    rw [places]
    exact Nat.pow_add 2 _ _
  simp only [inUnits, power]
  split
  · rw [Nat.cast_mul, ← mul_assoc, neg_mul]
  · rw [Nat.cast_mul, mul_assoc]

theorem order_finite {unit e f : Int} (first : unit ≤ e) (second : unit ≤ f) (a b : Bool)
    (m n : Nat) :
    order (.finite a m e) (.finite b n f) =
      some (compare (inUnits unit a m e) (inUnits unit b n f)) := by
  have le : unit ≤ min e f := le_min first second
  rw [order, inUnits_lower le (min_le_left e f), inUnits_lower le (min_le_right e f),
    compare_mul_pos (by exact_mod_cast Nat.pow_pos (by decide))]

/-! An integer as a number. -/

theorem floorLog2_one {n : Nat} (positive : 0 < n) : floorLog2 n 1 = n.log2 := by
  have reaches : ¬ n < Nat.pow 2 n.log2 := Nat.not_lt.2 (Nat.log2_self_le positive.ne')
  have one : Nat.log2 1 = 0 := by decide
  simp only [floorLog2, one, Nat.cast_zero, sub_zero, Int.natCast_nonneg, if_true,
    Int.toNat_natCast, Nat.one_mul, reaches, if_false]

theorem significand_one {n : Nat} (positive : 0 < n) {e : Int} (place : e = n.log2 - 52) {m : Nat}
    (rounded : m = if 0 ≤ e then nearestEven n (1 * Nat.pow 2 e.toNat)
      else nearestEven (n * Nat.pow 2 (-e).toNat) 1) :
    m * Nat.pow 2 (e + 52).toNat = roundedNat n * Nat.pow 2 52 ∧
      Nat.pow 2 52 ≤ m ∧ m ≤ Nat.pow 2 53 := by
  have least : Nat.pow 2 n.log2 ≤ n := Nat.log2_self_le positive.ne'
  have greatest : n ≤ Nat.pow 2 (n.log2 + 1) := Nat.lt_log2_self.le
  by_cases large : 0 ≤ e
  · have places : e.toNat = excessPlaces n := by
      rw [excessPlaces]
      omega
    rw [if_pos large, Nat.one_mul, places] at rounded
    have split : (e + 52).toNat = excessPlaces n + 52 := by omega
    have log : n.log2 = 52 + excessPlaces n := by omega
    have log' : n.log2 + 1 = 53 + excessPlaces n := by omega
    rw [log] at least
    rw [log'] at greatest
    refine ⟨?_, ?_, ?_⟩
    · rw [split, roundedNat, ← rounded, Nat.mul_assoc]
      exact congrArg (m * ·) (Nat.pow_add 2 _ _)
    · rw [rounded]
      exact le_nearestEven (pow_excess_pos n) (least.trans' (Nat.pow_add 2 _ _).ge)
    · rw [rounded]
      exact nearestEven_le (pow_excess_pos n) (greatest.trans (Nat.pow_add 2 _ _).le)
  · have shifted : m = n * Nat.pow 2 (-e).toNat := by
      rw [rounded, if_neg large]
      have whole := nearestEven_mul Nat.one_pos (n * Nat.pow 2 (-e).toNat)
      rwa [Nat.mul_one] at whole
    have small : n ≤ Nat.pow 2 53 :=
      ((Nat.log2_lt positive.ne').1 (by omega)).le
    have split : (-e).toNat + (e + 52).toNat = 52 := by omega
    have log : n.log2 + (-e).toNat = 52 := by omega
    have log' : n.log2 + 1 + (-e).toNat = 53 := by omega
    refine ⟨?_, ?_, ?_⟩
    · rw [shifted, roundedNat_of_small small, Nat.mul_assoc, ← split]
      exact congrArg (n * ·) (Nat.pow_add 2 _ _).symm
    · rw [shifted, ← log]
      exact (Nat.pow_add 2 _ _).le.trans (Nat.mul_le_mul_right _ least)
    · rw [shifted, ← log']
      exact (Nat.mul_le_mul_right _ greatest).trans (Nat.pow_add 2 _ _).ge

/-- Rounding within the range of exponents, where a carry goes to the exponent. -/
theorem round_within {p : Precision} {num den m : Nat} {e : Int} (nonzero : num ≠ 0)
    (place : max (floorLog2 num den - ((p.bits : Int) - 1)) p.least = e)
    (significand : m = if 0 ≤ e then nearestEven num (den * Nat.pow 2 e.toNat)
      else nearestEven (num * Nat.pow 2 (-e).toNat) den)
    (positive : 0 < m) (room : e < p.greatest) (negative : Bool) :
    round p negative num den =
      if m = Nat.pow 2 p.bits then .finite negative (Nat.pow 2 (p.bits - 1)) (e + 1)
      else .finite negative m e := by
  simp only [round, if_neg nonzero, place, ← significand]
  split
  · have power : Nat.pow 2 (p.bits - 1) ≠ 0 := (Nat.pow_pos (by decide)).ne'
    have within : ¬ p.greatest < e + 1 := by omega
    simp only [if_neg power, if_neg within]
  · have within : ¬ p.greatest < e := by omega
    simp only [if_neg positive.ne', if_neg within]

theorem round_one {n : Nat} (positive : 0 < n) (small : n ≤ Nat.pow 2 63) (negative : Bool) :
    ∃ m e, round .double negative n 1 = .finite negative m e ∧ -52 ≤ e ∧
      m * Nat.pow 2 (e + 52).toNat = roundedNat n * Nat.pow 2 52 ∧
      Nat.pow 2 52 ≤ m ∧ m < Nat.pow 2 53 := by
  have log : n.log2 ≤ 63 := (log2_mono small).trans (by decide)
  obtain ⟨e, exponent⟩ : ∃ e : Int, e = n.log2 - 52 := ⟨_, rfl⟩
  obtain ⟨m, significand⟩ : ∃ m, m = if 0 ≤ e then nearestEven n (1 * Nat.pow 2 e.toNat)
    else nearestEven (n * Nat.pow 2 (-e).toNat) 1 := ⟨_, rfl⟩
  obtain ⟨value, least, greatest⟩ := significand_one positive exponent significand
  have place : max (floorLog2 n 1 - ((Precision.double.bits : Int) - 1)) Precision.double.least =
      e := by
    rw [floorLog2_one positive]
    simp only [Precision.double]
    omega
  have room : e < Precision.double.greatest := by
    simp only [Precision.double]
    omega
  have nonzero : 0 < m := (Nat.pow_pos (by decide)).trans_le least
  rw [round_within positive.ne' place significand nonzero room]
  split
  · rename_i carry
    refine ⟨_, _, rfl, by omega, ?_, le_rfl, by decide⟩
    have next : (e + 1 + 52).toNat = 1 + (e + 52).toNat := by omega
    have double : Nat.pow 2 (Precision.double.bits - 1) * Nat.pow 2 (1 + (e + 52).toNat) =
        Nat.pow 2 Precision.double.bits * Nat.pow 2 (e + 52).toNat := by
      simp only [Nat.pow_eq, ← Nat.pow_add]
      exact congrArg (2 ^ ·) (by simp only [Precision.double]; omega)
    rw [next, double, ← carry, value]
  · rename_i other
    exact ⟨m, e, rfl, by omega, value, least, lt_of_le_of_ne greatest other⟩

theorem ofInt_finite {n : Int} (small : n.natAbs ≤ Nat.pow 2 63) :
    ∃ s m e, ofInt n = .finite s m e ∧ -52 ≤ e ∧
      inUnits (-52) s m e = roundedInt n * Nat.pow 2 52 := by
  by_cases zero : n = 0
  · subst zero
    exact ⟨false, 0, 0, rfl, by decide, by decide⟩
  · obtain ⟨m, e, same, least, value, -, -⟩ :=
      round_one (Int.natAbs_pos.2 zero) small (decide (n < 0))
    refine ⟨_, m, e, same, least, ?_⟩
    have unit : (e - -52).toNat = (e + 52).toNat := by omega
    have cast : ((m : Int) * (Nat.pow 2 (e + 52).toNat : Nat)) =
        (roundedNat n.natAbs : Int) * (Nat.pow 2 52 : Nat) := by exact_mod_cast value
    simp only [inUnits, unit, roundedInt, decide_eq_true_eq]
    split
    · rw [cast, neg_mul]
    · exact cast

theorem order_ofInt {n m : Int} (first : n.natAbs ≤ Nat.pow 2 63)
    (second : m.natAbs ≤ Nat.pow 2 63) :
    (ofInt n).order (ofInt m) = some (compare (roundedInt n) (roundedInt m)) := by
  obtain ⟨a, p, e, same, least, value⟩ := ofInt_finite first
  obtain ⟨b, q, f, same', least', value'⟩ := ofInt_finite second
  rw [same, same', order_finite least least', value, value',
    compare_mul_pos (by exact_mod_cast Nat.pow_pos (by decide))]

end Binary64
end TitleTemplate
