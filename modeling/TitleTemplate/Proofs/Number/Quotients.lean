import Mathlib.Tactic.FieldSimp
import TitleTemplate.Proofs.Number.Order

/-!
Quotients that the format holds. Where a quotient is a significand of full width times a power of two
within range, rounding leaves it as it is; so dividing by a power of two only moves the exponent.
-/
namespace TitleTemplate

theorem scaledPair_rational (m : Nat) (e : Int) :
    0 < (scaledPair 2 m e).2 ∧
      ((scaledPair 2 m e).1 : ℚ) / (scaledPair 2 m e).2 = m * 2 ^ e := by
  rw [scaledPair]
  split
  · rename_i large
    obtain ⟨k, rfl⟩ := Int.eq_ofNat_of_zero_le large
    refine ⟨Nat.one_pos, ?_⟩
    rw [Int.toNat_natCast, zpow_natCast]
    push_cast [Nat.pow_eq]
    ring
  · rename_i negative
    obtain ⟨k, opposite⟩ := Int.eq_ofNat_of_zero_le (show 0 ≤ -e by omega)
    have same : e = -(k : Int) := by omega
    refine ⟨Nat.pow_pos (by decide), ?_⟩
    rw [opposite, Int.toNat_natCast, same, zpow_neg, zpow_natCast]
    push_cast [Nat.pow_eq]
    ring

section Logarithm
variable {num den : Nat} (positive : 0 < num) (positive' : 0 < den)

theorem below_pow_iff (positive' : 0 < den) (k : Int) :
    (if 0 ≤ k then num < den * Nat.pow 2 k.toNat else num * Nat.pow 2 (-k).toNat < den) ↔
      (num : ℚ) / den < 2 ^ k := by
  have divisor : (0 : ℚ) < den := by exact_mod_cast positive'
  rw [div_lt_iff₀ divisor]
  split
  · rename_i large
    obtain ⟨j, rfl⟩ := Int.eq_ofNat_of_zero_le large
    rw [Int.toNat_natCast, zpow_natCast, mul_comm]
    exact_mod_cast Iff.rfl
  · rename_i negative
    obtain ⟨j, opposite⟩ := Int.eq_ofNat_of_zero_le (show 0 ≤ -k by omega)
    have same : k = -(j : Int) := by omega
    have power : (0 : ℚ) < 2 ^ j := by positivity
    rw [opposite, Int.toNat_natCast, same, zpow_neg, zpow_natCast, inv_mul_eq_div,
      lt_div_iff₀ power]
    exact_mod_cast Iff.rfl

include positive positive' in
theorem floorLog2_spec :
    (2 : ℚ) ^ floorLog2 num den ≤ num / den ∧ (num : ℚ) / den < 2 ^ (floorLog2 num den + 1) := by
  have divisor : (0 : ℚ) < den := by exact_mod_cast positive'
  have lowNum : (2 : ℚ) ^ (num.log2 : Int) ≤ num := by
    rw [zpow_natCast]
    exact_mod_cast Nat.log2_self_le positive.ne'
  have highNum : (num : ℚ) < 2 ^ ((num.log2 : Int) + 1) := by
    have less : num < 2 ^ (num.log2 + 1) := Nat.lt_log2_self
    exact_mod_cast less
  have lowDen : (2 : ℚ) ^ (den.log2 : Int) ≤ den := by
    rw [zpow_natCast]
    exact_mod_cast Nat.log2_self_le positive'.ne'
  have highDen : (den : ℚ) < 2 ^ ((den.log2 : Int) + 1) := by
    have less : den < 2 ^ (den.log2 + 1) := Nat.lt_log2_self
    exact_mod_cast less
  obtain ⟨k, difference⟩ : ∃ k : Int, k = num.log2 - den.log2 := ⟨_, rfl⟩
  have above : (num : ℚ) / den < 2 ^ (k + 1) := by
    rw [div_lt_iff₀ divisor]
    calc (num : ℚ)
      _ < 2 ^ ((num.log2 : Int) + 1) := highNum
      _ = 2 ^ (k + 1) * 2 ^ (den.log2 : Int) := by
        rw [← zpow_add₀ (by norm_num)]
        congr 1
        omega
      _ ≤ 2 ^ (k + 1) * den := mul_le_mul_of_nonneg_left lowDen (by positivity)
  have below : (2 : ℚ) ^ (k - 1) ≤ num / den := by
    rw [le_div_iff₀ divisor]
    calc (2 : ℚ) ^ (k - 1) * den
      _ ≤ 2 ^ (k - 1) * 2 ^ ((den.log2 : Int) + 1) :=
        mul_le_mul_of_nonneg_left highDen.le (by positivity)
      _ = 2 ^ (num.log2 : Int) := by
        rw [← zpow_add₀ (by norm_num)]
        congr 1
        omega
      _ ≤ num := lowNum
  simp only [floorLog2, ← difference, below_pow_iff positive']
  split
  · rename_i less
    exact ⟨below, by rwa [sub_add_cancel]⟩
  · rename_i least
    exact ⟨not_lt.1 least, above⟩

include positive positive' in
theorem floorLog2_eq {k : Int} (low : (2 : ℚ) ^ k ≤ num / den)
    (high : (num : ℚ) / den < 2 ^ (k + 1)) : floorLog2 num den = k := by
  obtain ⟨low', high'⟩ := floorLog2_spec positive positive'
  have first := (zpow_lt_zpow_iff_right₀ (by norm_num : (1 : ℚ) < 2)).1 (low.trans_lt high')
  have second := (zpow_lt_zpow_iff_right₀ (by norm_num : (1 : ℚ) < 2)).1 (low'.trans_lt high)
  omega

end Logarithm

namespace Binary64

theorem round_exact {num den m : Nat} {e : Int} (positive : 0 < den) (low : 2 ^ 52 ≤ m)
    (high : m < 2 ^ 53) (least : -1074 ≤ e) (room : e < 971)
    (exact : (num : ℚ) / den = m * 2 ^ e) (negative : Bool) :
    round .double negative num den = .finite negative m e := by
  have divisor : (den : ℚ) ≠ 0 := by exact_mod_cast positive.ne'
  have some : 0 < m := (by decide : 0 < 2 ^ 52).trans_le low
  have power : (0 : ℚ) < 2 ^ e := by positivity
  have nonzero : num ≠ 0 := by
    rintro rfl
    have product : (0 : ℚ) < m * 2 ^ e := mul_pos (by exact_mod_cast some) power
    rw [← exact] at product
    simp at product
  have log : floorLog2 num den = e + 52 := by
    refine floorLog2_eq (Nat.pos_of_ne_zero nonzero) positive ?_ ?_
    · have low' : (2 : ℚ) ^ (52 : Int) ≤ m := by exact_mod_cast low
      rw [exact, add_comm, zpow_add₀ (by norm_num)]
      exact mul_le_mul_of_nonneg_right low' power.le
    · have high' : (m : ℚ) < 2 ^ (53 : Int) := by exact_mod_cast high
      rw [exact, show e + 52 + 1 = 53 + e by ring, zpow_add₀ (by norm_num)]
      exact mul_lt_mul_of_pos_right high' power
  have significand : m = if 0 ≤ e then nearestEven num (den * Nat.pow 2 e.toNat)
      else nearestEven (num * Nat.pow 2 (-e).toNat) den := by
    rw [div_eq_iff divisor] at exact
    split
    · rename_i large
      obtain ⟨k, rfl⟩ := Int.eq_ofNat_of_zero_le large
      have whole : num = m * (den * Nat.pow 2 k) := by
        rw [zpow_natCast] at exact
        have : num = m * 2 ^ k * den := by exact_mod_cast exact
        rw [this, Nat.pow_eq]
        ring
      have divides : 0 < den * Nat.pow 2 k := Nat.mul_pos positive (Nat.pow_pos (by decide))
      rw [Int.toNat_natCast, whole, nearestEven_mul divides]
    · rename_i small
      obtain ⟨k, opposite⟩ := Int.eq_ofNat_of_zero_le (show 0 ≤ -e by omega)
      have same : e = -(k : Int) := by omega
      have whole : num * Nat.pow 2 k = m * den := by
        rw [same, zpow_neg, zpow_natCast] at exact
        have : (num : ℚ) * 2 ^ k = m * den := by
          rw [exact]
          field_simp
        exact_mod_cast this
      rw [opposite, Int.toNat_natCast, whole, nearestEven_mul positive]
  have place : max (floorLog2 num den - ((Precision.double.bits : Int) - 1))
      Precision.double.least = e := by
    rw [log]
    simp only [Precision.double]
    omega
  have noCarry : ¬ m = Nat.pow 2 Precision.double.bits := high.ne
  rw [round_within nonzero place significand some room, if_neg noCarry]

theorem div_1024 {m : Nat} {e : Int} (low : 2 ^ 52 ≤ m) (high : m < 2 ^ 53) (least : -1064 ≤ e)
    (room : e < 981) (negative : Bool) :
    (finite negative m e).div (ofNat 1024) = .finite negative m (e - 10) := by
  have base : ofNat 1024 = .finite false (2 ^ 52) (-42) := by decide
  obtain ⟨positive, quotient⟩ := scaledPair_rational m (e - -42)
  have exact : ((scaledPair 2 m (e - -42)).1 : ℚ) /
      ((scaledPair 2 m (e - -42)).2 * 2 ^ 52 : Nat) = m * 2 ^ (e - 10) := by
    rw [Nat.cast_mul, ← div_div, quotient, show e - -42 = e - 10 + 52 by ring,
      zpow_add₀ (by norm_num)]
    push_cast
    field_simp
  rw [base, div, if_neg (by decide)]
  exact (round_exact (Nat.mul_pos positive (by decide)) low high (by omega) (by omega) exact _).trans
    (by rw [Bool.bne_false])

theorem atMost_finite_iff (a b : Bool) (m n : Nat) (e f : Int) :
    (finite a m e).atMost (.finite b n f) = true ↔ rational a m e ≤ rational b n f := by
  rw [atMost, less, equal, order_eq_compare, place?, place?, Option.map₂_some_some, Bool.or_eq_true,
    beq_iff_eq, beq_iff_eq, Option.some_inj, Option.some_inj, compare_lt_iff_lt, compare_eq_iff_eq,
    WithBotTop.coe_lt_coe, WithBotTop.coe_injective.eq_iff, le_iff_lt_or_eq]

theorem ofInt_exact {n : Int} (nonzero : n ≠ 0) (small : n.natAbs < Nat.pow 2 53) :
    ∃ m e, ofInt n = .finite (decide (n < 0)) m e ∧ 2 ^ 52 ≤ m ∧ m < 2 ^ 53 ∧ -52 ≤ e ∧ e ≤ 0 ∧
      (m : ℚ) * 2 ^ e = n.natAbs := by
  have limit : Nat.pow 2 53 ≤ Nat.pow 2 63 := Nat.pow_le_pow_right (by decide) (by decide)
  obtain ⟨m, e, same, least, value, low, high⟩ :=
    round_one (Int.natAbs_pos.2 nonzero) (small.le.trans limit) (decide (n < 0))
  rw [roundedNat_of_small small.le] at value
  obtain ⟨k, shifted⟩ := Int.eq_ofNat_of_zero_le (show 0 ≤ e + 52 by omega)
  rw [shifted, Int.toNat_natCast, Nat.pow_eq, Nat.pow_eq] at value
  refine ⟨m, e, same, low, high, least, ?_, ?_⟩
  · have product : 2 ^ 52 * 2 ^ k < 2 ^ 53 * 2 ^ 52 :=
      calc 2 ^ 52 * 2 ^ k
        _ ≤ m * 2 ^ k := Nat.mul_le_mul_right _ low
        _ = n.natAbs * 2 ^ 52 := value
        _ < 2 ^ 53 * 2 ^ 52 := Nat.mul_lt_mul_of_pos_right small (by decide)
    rw [← Nat.pow_add, ← Nat.pow_add, Nat.pow_lt_pow_iff_right (by decide)] at product
    omega
  · have value' : (m : ℚ) * 2 ^ k = n.natAbs * 2 ^ 52 := by exact_mod_cast value
    have split : e = (k : Int) - (52 : Nat) := by omega
    rw [split, zpow_sub₀ (by norm_num), zpow_natCast, zpow_natCast, ← mul_div_assoc, value',
      mul_div_assoc, div_self (by norm_num), mul_one]

end Binary64
end TitleTemplate
