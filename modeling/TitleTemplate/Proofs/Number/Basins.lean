import TitleTemplate.Number.Decimal
import TitleTemplate.Proofs.Number.Integers

/-!
The integers around a number. The reals that a number stands for when its shortest digits are looked
for are those that are rounded to it: an integer is in the basin of a number exactly if it is rounded
to that number.
-/
namespace TitleTemplate

theorem excessPlaces_eq {n k : Nat} (least : Nat.pow 2 (52 + k) ≤ n)
    (greatest : n < Nat.pow 2 (53 + k)) : excessPlaces n = k := by
  have positive : n ≠ 0 := ((Nat.pow_pos (by decide)).trans_le least).ne'
  have lower : 52 + k ≤ n.log2 := (Nat.le_log2 positive).2 least
  have upper : n.log2 < 53 + k := (Nat.log2_lt positive).2 greatest
  rw [excessPlaces]
  omega

theorem roundedNat_eq_iff_near {n k : Nat} (least : Nat.pow 2 (52 + k) ≤ n)
    (greatest : n < Nat.pow 2 (53 + k)) (c : Nat) :
    roundedNat n = c * Nat.pow 2 k ↔
      2 * n ≤ 2 * (c * Nat.pow 2 k) + Nat.pow 2 k ∧ 2 * (c * Nat.pow 2 k) ≤ 2 * n + Nat.pow 2 k ∧
        (c % 2 = 1 → 2 * n ≠ 2 * (c * Nat.pow 2 k) + Nat.pow 2 k ∧
          2 * (c * Nat.pow 2 k) ≠ 2 * n + Nat.pow 2 k) := by
  have positive : 0 < Nat.pow 2 k := Nat.pow_pos (by decide)
  rw [roundedNat, excessPlaces_eq least greatest, ← nearestEven_eq_iff positive]
  exact Nat.mul_left_inj positive.ne'

/-- Where the basin of a number begins, in quarters of the step above it. Below a power of two the
step is half as large. -/
def lowQuarters (m : Nat) : Nat := if m = Nat.pow 2 52 then 4 * m - 1 else 4 * m - 2

theorem quarters_mul (m p : Nat) :
    lowQuarters m * p = 4 * (m * p) - (if m = Nat.pow 2 52 then 1 else 2) * p ∧
      (4 * m + 2) * p = 4 * (m * p) + 2 * p := by
  constructor
  · rw [lowQuarters]
    split <;> rw [Nat.sub_mul, Nat.mul_assoc]
  · rw [Nat.add_mul, Nat.mul_assoc]

theorem shifted_bounds {m : Nat} (least : Nat.pow 2 52 ≤ m) (greatest : m < Nat.pow 2 53)
    (p : Nat) :
    m * p + p ≤ Nat.pow 2 53 * p ∧ (m = Nat.pow 2 52 → m * p = Nat.pow 2 52 * p) ∧
      (m ≠ Nat.pow 2 52 → Nat.pow 2 52 * p + p ≤ m * p) := by
  refine ⟨?_, fun same => congrArg (· * p) same, fun other => ?_⟩
  · have := Nat.mul_le_mul_right p (Nat.succ_le_of_lt greatest)
    rwa [Nat.succ_mul] at this
  · have := Nat.mul_le_mul_right p (Nat.succ_le_of_lt (least.lt_of_ne other.symm))
    rwa [Nat.succ_mul] at this

/-- The integers that are rounded to one with 53 significant bits: those within half of a step, where
the ends belong to an even significand. -/
theorem roundedNat_eq_iff {m k : Nat} (least : Nat.pow 2 52 ≤ m) (greatest : m < Nat.pow 2 53)
    (fits : 0 < k) (n : Nat) :
    roundedNat n = m * Nat.pow 2 k ↔
      lowQuarters m * Nat.pow 2 k ≤ 4 * n ∧ 4 * n ≤ (4 * m + 2) * Nat.pow 2 k ∧
        (m % 2 = 1 → lowQuarters m * Nat.pow 2 k ≠ 4 * n ∧
          4 * n ≠ (4 * m + 2) * Nat.pow 2 k) := by
  obtain ⟨j, rfl⟩ : ∃ j, k = j + 1 := ⟨k - 1, by omega⟩
  have half : Nat.pow 2 (j + 1) = 2 * Nat.pow 2 j := Nat.pow_succ'
  have before : Nat.pow 2 (52 + j) = Nat.pow 2 52 * Nat.pow 2 j := Nat.pow_add 2 _ _
  have carry : Nat.pow 2 (52 + (j + 1)) = Nat.pow 2 (53 + j) := congrArg (Nat.pow 2) (by omega)
  have binade : Nat.pow 2 (53 + j) = Nat.pow 2 52 * Nat.pow 2 (j + 1) :=
    carry.symm.trans (Nat.pow_add 2 _ _)
  have next : Nat.pow 2 (53 + (j + 1)) = Nat.pow 2 53 * Nat.pow 2 (j + 1) := Nat.pow_add 2 _ _
  have positive : 0 < Nat.pow 2 j := Nat.pow_pos (by decide)
  obtain ⟨high, power, above⟩ := shifted_bounds least greatest (Nat.pow 2 (j + 1))
  rw [(quarters_mul m _).1, (quarters_mul m _).2]
  have bits : Nat.pow 2 52 = 4503599627370496 := by decide
  have bits' : Nat.pow 2 53 = 9007199254740992 := by decide
  rw [bits] at before binade power above
  rw [bits'] at next high
  rcases lt_or_ge n (Nat.pow 2 (52 + j)) with small | notSmall
  · -- Too small: what it is rounded to is not past the power of two above it.
    have : roundedNat n ≤ Nat.pow 2 (52 + j) := (roundedNat_mono small.le).trans (roundedNat_pow _).le
    rw [before] at small this
    generalize m * Nat.pow 2 (j + 1) = x at *
    generalize Nat.pow 2 (j + 1) = p at *
    generalize Nat.pow 2 j = q at *
    split <;> omega
  rcases lt_or_ge n (Nat.pow 2 (53 + j)) with below | inBinade
  · have twice : m * Nat.pow 2 (j + 1) = 2 * m * Nat.pow 2 j := by
      rw [half, Nat.mul_comm 2 m, Nat.mul_assoc]
    rw [twice, roundedNat_eq_iff_near notSmall below, ← twice]
    rw [before] at notSmall
    rw [binade] at below
    generalize m * Nat.pow 2 (j + 1) = x at *
    generalize Nat.pow 2 (j + 1) = p at *
    generalize Nat.pow 2 j = q at *
    split <;> omega
  rcases lt_or_ge n (Nat.pow 2 (53 + (j + 1))) with within | beyond
  · rw [roundedNat_eq_iff_near (carry.trans_le inBinade) within]
    rw [binade] at inBinade
    generalize m * Nat.pow 2 (j + 1) = x at *
    generalize Nat.pow 2 (j + 1) = p at *
    split <;> omega
  · have : Nat.pow 2 (53 + (j + 1)) ≤ roundedNat n :=
      (roundedNat_pow _).ge.trans (roundedNat_mono beyond)
    rw [next] at beyond this
    generalize m * Nat.pow 2 (j + 1) = x at *
    generalize Nat.pow 2 (j + 1) = p at *
    split <;> omega

theorem roundedInt_natCast (n : Nat) : roundedInt n = roundedNat n := if_neg (by omega)

theorem roundedNat_eq_small_iff {n r : Nat} (small : r < Nat.pow 2 53) :
    roundedNat n = r ↔ n = r := by
  constructor
  · intro same
    have equal : roundedInt r = roundedInt n := by
      rw [roundedInt_natCast, roundedInt_natCast, roundedNat_of_small small.le, same]
    exact_mod_cast (eq_of_roundedInt_eq (by simpa using small) equal).symm
  · rintro rfl
    exact roundedNat_of_small small.le

namespace Decimal

def Basin.Holds (b : Basin) (j : Nat) : Prop :=
  b.low ≤ j * b.den ∧ j * b.den ≤ b.high ∧
    (b.closed = false → b.low ≠ j * b.den ∧ j * b.den ≠ b.high)

variable {m r : Nat} {e : Int}

theorem basin_of_double (least : -52 ≤ e) :
    Basin.of .double m e = ⟨lowQuarters m * (scaledPair 2 1 (e - 2)).1,
      4 * m * (scaledPair 2 1 (e - 2)).1, (4 * m + 2) * (scaledPair 2 1 (e - 2)).1,
      (scaledPair 2 1 (e - 2)).2, m % 2 == 0⟩ := by
  have fits : Precision.double.least < e := by
    simp only [Precision.double]
    omega
  simp only [Basin.of, fits, and_true]
  rfl

theorem scale_of_large {k : Nat} (large : e = k) (more : 0 < k) :
    4 * (scaledPair 2 1 (e - 2)).1 = Nat.pow 2 k * (scaledPair 2 1 (e - 2)).2 ∧
      0 < (scaledPair 2 1 (e - 2)).2 := by
  rcases Nat.lt_or_ge k 2 with one | less
  · obtain rfl : k = 1 := by omega
    subst large
    decide
  · obtain ⟨j, rfl⟩ : ∃ j, k = j + 2 := ⟨k - 2, by omega⟩
    have places : (e - 2).toNat = j := by omega
    rw [scaledPair, if_pos (by omega), places]
    refine ⟨?_, Nat.one_pos⟩
    rw [Nat.one_mul, Nat.mul_one, Nat.mul_comm]
    exact (Nat.pow_add 2 j 2).symm

theorem scale_of_small {k : Nat} (small : e = -(k : Int)) :
    scaledPair 2 1 (e - 2) = (1, 4 * Nat.pow 2 k) := by
  have places : (-(e - 2)).toNat = 2 + k := by omega
  rw [scaledPair, if_neg (by omega), places]
  exact congrArg (1, ·) (Nat.pow_add 2 2 k)

theorem eq_shifted {k : Nat} (value : m * Nat.pow 2 ((k : Int) + 52).toNat = r * Nat.pow 2 52) :
    r = m * Nat.pow 2 k := by
  have places : ((k : Int) + 52).toNat = k + 52 := by omega
  have power : Nat.pow 2 (k + 52) = Nat.pow 2 k * Nat.pow 2 52 := Nat.pow_add 2 _ _
  rw [places, power, ← Nat.mul_assoc] at value
  exact (Nat.eq_of_mul_eq_mul_right (Nat.pow_pos (by decide)) value).symm

theorem shifted_eq {k : Nat} (least : k ≤ 52)
    (value : m * Nat.pow 2 (-(k : Int) + 52).toNat = r * Nat.pow 2 52) : m = r * Nat.pow 2 k := by
  have places : (-(k : Int) + 52).toNat = 52 - k := by omega
  have power : Nat.pow 2 52 = Nat.pow 2 k * Nat.pow 2 (52 - k) := by
    rw [Nat.mul_comm]
    exact pow_split least
  rw [places, power, ← Nat.mul_assoc] at value
  exact Nat.eq_of_mul_eq_mul_right (Nat.pow_pos (by decide)) value

theorem centre_eq (least : -52 ≤ e)
    (value : m * Nat.pow 2 (e + 52).toNat = r * Nat.pow 2 52) :
    0 < (Basin.of .double m e).den ∧
      (Basin.of .double m e).centre = r * (Basin.of .double m e).den := by
  rw [basin_of_double least]
  dsimp only
  rcases lt_or_ge 0 e with large | small
  · obtain ⟨k, rfl⟩ := Int.eq_ofNat_of_zero_le large.le
    obtain ⟨step, positive⟩ := scale_of_large (e := (k : Int)) rfl (by omega)
    refine ⟨positive, ?_⟩
    rw [eq_shifted value, Nat.mul_assoc m, ← step, Nat.mul_comm 4 m, Nat.mul_assoc]
  · obtain ⟨k, rfl⟩ := Int.exists_eq_neg_ofNat small
    rw [scale_of_small rfl, shifted_eq (by omega) value]
    refine ⟨Nat.mul_pos (by decide) (Nat.pow_pos (by decide)), ?_⟩
    rw [Nat.mul_one, Nat.mul_left_comm]

theorem basin_holds_iff (least : -52 ≤ e)
    (value : m * Nat.pow 2 (e + 52).toNat = r * Nat.pow 2 52) (low : Nat.pow 2 52 ≤ m)
    (high : m < Nat.pow 2 53) (j : Nat) :
    (Basin.of .double m e).Holds j ↔ roundedNat j = r := by
  have parity : (m % 2 == 0) = false ↔ m % 2 = 1 := by
    rw [beq_eq_false_iff_ne]
    omega
  rw [basin_of_double least, Basin.Holds]
  dsimp only
  rw [parity]
  rcases lt_or_ge 0 e with large | small
  · obtain ⟨k, rfl⟩ := Int.eq_ofNat_of_zero_le large.le
    obtain ⟨step, positive⟩ := scale_of_large (e := (k : Int)) rfl (by omega)
    rw [eq_shifted value, roundedNat_eq_iff low high (by omega)]
    generalize scaledPair 2 1 ((k : Int) - 2) = pair at *
    -- Both ends, four times as large, are multiples of the denominator.
    have ends (a : Nat) : 4 * (a * pair.1) = a * Nat.pow 2 k * pair.2 := by
      rw [Nat.mul_left_comm, step, Nat.mul_assoc]
    have point : 4 * (j * pair.2) = 4 * j * pair.2 := (Nat.mul_assoc 4 j _).symm
    have above (a : Nat) : a * pair.1 ≤ j * pair.2 ↔ a * Nat.pow 2 k ≤ 4 * j := by
      rw [← Nat.mul_le_mul_left_iff (by decide : 0 < 4), ends, point,
        Nat.mul_le_mul_right_iff positive]
    have below (a : Nat) : j * pair.2 ≤ a * pair.1 ↔ 4 * j ≤ a * Nat.pow 2 k := by
      rw [← Nat.mul_le_mul_left_iff (by decide : 0 < 4), ends, point,
        Nat.mul_le_mul_right_iff positive]
    simp only [ne_eq, le_antisymm_iff, above, below]
  · obtain ⟨k, rfl⟩ := Int.exists_eq_neg_ofNat small
    have shifted := shifted_eq (by omega) value
    have positive : 0 < Nat.pow 2 k := Nat.pow_pos (by decide)
    have bound : r < Nat.pow 2 53 := by
      refine lt_of_le_of_lt ?_ high
      rw [shifted]
      exact Nat.le_mul_of_pos_right r positive
    have next {a b : Nat} (less : a < b) : a * Nat.pow 2 k + Nat.pow 2 k ≤ b * Nat.pow 2 k := by
      have := Nat.mul_le_mul_right (Nat.pow 2 k) less
      rwa [Nat.succ_mul] at this
    rw [roundedNat_eq_small_iff bound, scale_of_small rfl, shifted]
    dsimp only
    rw [Nat.mul_one, Nat.mul_one, Nat.mul_left_comm j, lowQuarters]
    rcases lt_trichotomy j r with less | rfl | more
    · have := next less
      split <;> omega
    · split <;> omega
    · have := next more
      split <;> omega

end Decimal
end TitleTemplate
