import Mathlib.Data.Nat.Dist
import TitleTemplate.Proofs.Number.Basins
import TitleTemplate.Proofs.Number.Digits

/-!
The shortest digits of a whole number. Among the integers in the basin of a number the search finds
one that ends with as many zeros as any of them, and of those the one nearest to the number. Grids of
powers of ten are tried from the coarsest one on, and the integers that it passes over are on none of
the grids that were tried.
-/
namespace TitleTemplate

/-- One candidate comes before another: it is nearer to the number, or just as near and not less. -/
def Preferred (r k j : Nat) : Prop := k.dist r < j.dist r ∨ k.dist r = j.dist r ∧ j ≤ k

/-- The candidate with the most zeros at its end, and of those the preferred one. -/
structure Roundest (candidate : Nat → Prop) (r k : Nat) : Prop where
  holds : candidate k
  zeros : ∀ j z, candidate j → 10 ^ z ∣ j → 10 ^ z ∣ k
  nearest : ∀ j, candidate j → (∀ z, 10 ^ z ∣ k → 10 ^ z ∣ j) → Preferred r k j

theorem preferred_self (r j : Nat) : Preferred r r j := by
  simp only [Preferred, Nat.dist]
  omega

theorem roundest_self {candidate : Nat → Prop} {r : Nat} (own : candidate r)
    (zeros : ∀ j z, candidate j → 10 ^ z ∣ j → 10 ^ z ∣ r) : Roundest candidate r r :=
  ⟨own, zeros, fun j _ _ => preferred_self r j⟩

theorem preferred_antisymm {r k j : Nat} (first : Preferred r k j) (second : Preferred r j k) :
    k = j := by
  simp only [Preferred] at first second
  omega

theorem roundest_unique {candidate : Nat → Prop} {r k j : Nat} (first : Roundest candidate r k)
    (second : Roundest candidate r j) : k = j :=
  preferred_antisymm (first.nearest j second.holds fun z => second.zeros k z first.holds)
    (second.nearest k first.holds fun z => first.zeros j z second.holds)

namespace Decimal

def value (d : Decimal) : Nat := d.significand * 10 ^ d.exponent.toNat

theorem trimZeros_value (n : Nat) {d : Decimal} (whole : 0 ≤ d.exponent) :
    0 ≤ (trimZeros n d).exponent ∧ (trimZeros n d).value = d.value := by
  induction n generalizing d with
  | zero => exact ⟨whole, rfl⟩
  | succ n ih =>
    rw [trimZeros]
    split
    · rename_i zero
      obtain ⟨more, same⟩ :=
        ih (d := ⟨d.significand / 10, d.exponent + 1⟩) (Int.add_nonneg whole (by decide))
      refine ⟨more, same.trans ?_⟩
      have next : (d.exponent + 1).toNat = d.exponent.toNat + 1 := by omega
      have split : d.significand / 10 * 10 = d.significand := by omega
      simp only [value, next]
      rw [Nat.pow_succ', ← Nat.mul_assoc, split]
    · exact ⟨whole, rfl⟩

theorem positional_whole {d : Decimal} (whole : 0 ≤ d.exponent) :
    d.positional = Nat.toDigits 10 d.value := by
  rw [positional, if_pos whole]
  split
  · rename_i zero
    rw [value, zero, Nat.zero_mul]
    rfl
  · rename_i nonzero
    exact (toDigits_mul_pow (Nat.pos_of_ne_zero nonzero) _).symm

/-! The grids of powers of ten. -/

variable {b : Basin} {r : Nat}

theorem Basin.Holds.between {i j k : Nat} (first : b.Holds i) (last : b.Holds j) (lower : i ≤ k)
    (upper : k ≤ j) : b.Holds k := by
  have above := Nat.mul_le_mul_right b.den lower
  have below := Nat.mul_le_mul_right b.den upper
  obtain ⟨least, -, strict⟩ := first
  obtain ⟨-, greatest, strict'⟩ := last
  refine ⟨least.trans above, below.trans greatest, fun ends => ?_⟩
  have := strict ends
  have := strict' ends
  omega

/-- The point of a grid that follows a number or is one with it. -/
def gridAbove (r p : Nat) : Nat := if r % p = 0 then r / p else r / p + 1

/-- What is found on a grid: neither neighbour, the only one in the basin, or the nearer one. -/
theorem onGrid_cases (positive : 0 < b.den) (centre : b.centre = r * b.den) (z : Nat) :
    (b.onGrid? .up z = none ∧ ¬ b.Holds (r / 10 ^ z * 10 ^ z) ∧
        ¬ b.Holds (gridAbove r (10 ^ z) * 10 ^ z)) ∨
      (b.onGrid? .up z = some (r / 10 ^ z) ∧ b.Holds (r / 10 ^ z * 10 ^ z) ∧
        (b.Holds (gridAbove r (10 ^ z) * 10 ^ z) →
          2 * r < (r / 10 ^ z + gridAbove r (10 ^ z)) * 10 ^ z)) ∨
      (b.onGrid? .up z = some (gridAbove r (10 ^ z)) ∧
        b.Holds (gridAbove r (10 ^ z) * 10 ^ z) ∧
        (b.Holds (r / 10 ^ z * 10 ^ z) →
          (r / 10 ^ z + gridAbove r (10 ^ z)) * 10 ^ z ≤ 2 * r)) := by
  have nonneg : (0 : Int) ≤ z := Int.natCast_nonneg z
  have point (c : Nat) : c * (b.den * Nat.pow 10 z) = c * 10 ^ z * b.den := by
    rw [Nat.mul_comm b.den, ← Nat.mul_assoc]
    rfl
  have inside (c : Nat) : (if b.closed then decide (b.low * 1 ≤ c * (b.den * Nat.pow 10 z)) &&
      decide (c * (b.den * Nat.pow 10 z) ≤ b.high * 1)
      else decide (b.low * 1 < c * (b.den * Nat.pow 10 z)) &&
        decide (c * (b.den * Nat.pow 10 z) < b.high * 1)) = true ↔ b.Holds (c * 10 ^ z) := by
    rw [point, Basin.Holds]
    cases b.closed
    · simp
      omega
    · simp
  have quotient : b.centre * 1 / (b.den * Nat.pow 10 z) = r / 10 ^ z := by
    rw [centre, Nat.mul_one, Nat.mul_comm r, Nat.mul_div_mul_left _ _ positive]
    rfl
  have rest : b.centre * 1 % (b.den * Nat.pow 10 z) = 0 ↔ r % 10 ^ z = 0 := by
    rw [centre, Nat.mul_one, Nat.mul_comm r, Nat.mul_mod_mul_left, Nat.mul_eq_zero]
    simp [positive.ne']
  have middle (x : Nat) : compare (2 * (b.centre * 1)) (x * (b.den * Nat.pow 10 z)) =
      compare (2 * r) (x * 10 ^ z) := by
    have twice : 2 * (b.centre * 1) = 2 * r * b.den := by
      rw [centre, Nat.mul_one, Nat.mul_assoc]
    rw [twice, point]
    simp only [compare, compareOfLessAndEq, Nat.mul_lt_mul_right positive,
      Nat.mul_left_inj positive.ne']
  simp only [Basin.onGrid?, if_pos nonneg, Int.toNat_natCast, quotient, rest, ← gridAbove.eq_1,
    middle]
  split
  · rename_i below above
    rw [← Bool.not_eq_true, inside] at below above
    exact .inl ⟨rfl, below, above⟩
  · rename_i below above
    rw [← Bool.not_eq_true, inside] at above
    exact .inr (.inl ⟨rfl, (inside _).1 below, fun held => absurd held above⟩)
  · rename_i below above
    rw [← Bool.not_eq_true, inside] at below
    exact .inr (.inr ⟨rfl, (inside _).1 above, fun held => absurd held below⟩)
  · rename_i below above
    split
    · rename_i less
      exact .inr (.inl ⟨rfl, (inside _).1 below, fun _ => compare_lt_iff_lt.1 less⟩)
    · rename_i more
      exact .inr (.inr ⟨rfl, (inside _).1 above, fun _ => (compare_gt_iff_gt.1 more).le⟩)
    · rename_i same
      exact .inr (.inr ⟨rfl, (inside _).1 above, fun _ => (compare_eq_iff_eq.1 same).ge⟩)

theorem gridBelow_spec (r p : Nat) : r / p * p ≤ r ∧ ∀ a, a * p ≤ r → a * p ≤ r / p * p := by
  refine ⟨Nat.div_mul_le_self r p, fun a le => ?_⟩
  rcases Nat.eq_zero_or_pos p with rfl | positive
  · exact (Nat.mul_zero a).trans_le (Nat.zero_le _)
  · exact Nat.mul_le_mul_right p ((Nat.le_div_iff_mul_le positive).2 le)

theorem gridAbove_spec {p : Nat} (positive : 0 < p) (r : Nat) :
    r ≤ gridAbove r p * p ∧ ∀ a, r ≤ a * p → gridAbove r p * p ≤ a * p := by
  have whole := Nat.div_add_mod' r p
  have rest := Nat.mod_lt r positive
  rw [gridAbove]
  split
  · exact ⟨by omega, fun a le => by omega⟩
  · refine ⟨by rw [Nat.succ_mul]; omega, fun a le => Nat.mul_le_mul_right p ?_⟩
    refine Nat.lt_of_not_le fun more => ?_
    have := Nat.mul_le_mul_right p more
    omega

section

variable (positive : 0 < b.den) (centre : b.centre = r * b.den) (own : b.Holds r)
include positive centre own

theorem onGrid_none {z : Nat} (missed : b.onGrid? .up z = none) {j : Nat} (held : b.Holds j) :
    ¬ 10 ^ z ∣ j := by
  rintro ⟨a, rfl⟩
  rw [Nat.mul_comm] at held
  rcases onGrid_cases positive centre z with ⟨-, below, above⟩ | ⟨found, -⟩ | ⟨found, -⟩
  · obtain ⟨before, last⟩ := gridBelow_spec r (10 ^ z)
    obtain ⟨after, first⟩ := gridAbove_spec (Nat.pow_pos (by decide) : 0 < 10 ^ z) r
    rcases le_total (a * 10 ^ z) r with lower | upper
    · exact below (held.between own (last a lower) before)
    · exact above (own.between held after (first a upper))
  · rw [missed] at found
    cases found
  · rw [missed] at found
    cases found

theorem onGrid_some {z c : Nat} (found : b.onGrid? .up z = some c) :
    b.Holds (c * 10 ^ z) ∧ ∀ j, b.Holds j → 10 ^ z ∣ j → Preferred r (c * 10 ^ z) j := by
  obtain ⟨before, last⟩ := gridBelow_spec r (10 ^ z)
  obtain ⟨after, first⟩ := gridAbove_spec (Nat.pow_pos (by decide) : 0 < 10 ^ z) r
  rcases onGrid_cases positive centre z with ⟨missed, -⟩ | ⟨hit, held, nearer⟩ | ⟨hit, held, nearer⟩
  · rw [found] at missed
    cases missed
  · obtain rfl : c = r / 10 ^ z := Option.some.inj (found.symm.trans hit)
    refine ⟨held, ?_⟩
    rintro _ other ⟨a, rfl⟩
    rw [Nat.mul_comm (10 ^ z)] at other ⊢
    rw [Nat.add_mul] at nearer
    simp only [Preferred, Nat.dist]
    rcases le_total (a * 10 ^ z) r with lower | upper
    · have := last a lower
      omega
    · have := first a upper
      have := nearer (own.between other after this)
      omega
  · obtain rfl : c = gridAbove r (10 ^ z) := Option.some.inj (found.symm.trans hit)
    refine ⟨held, ?_⟩
    rintro _ other ⟨a, rfl⟩
    rw [Nat.mul_comm (10 ^ z)] at other ⊢
    rw [Nat.add_mul] at nearer
    simp only [Preferred, Nat.dist]
    rcases le_total (a * 10 ^ z) r with lower | upper
    · have := last a lower
      have := nearer (other.between own this before)
      omega
    · have := first a upper
      omega

/-- What is found on a grid is the roundest of the candidates, if none is on the next grid. -/
theorem onGrid_roundest {z c : Nat} (found : b.onGrid? .up z = some c)
    (finest : ∀ j, b.Holds j → ¬ 10 ^ (z + 1) ∣ j) : Roundest b.Holds r (c * 10 ^ z) := by
  obtain ⟨held, best⟩ := onGrid_some positive centre own found
  refine ⟨held, fun j y other divides => ?_, fun j other rounder => ?_⟩
  · rcases Nat.lt_or_ge z y with more | le
    · exact absurd ((Nat.pow_dvd_pow 10 more).trans divides) (finest j other)
    · exact (Nat.pow_dvd_pow 10 le).trans (Nat.dvd_mul_left _ c)
  · exact best j other (rounder z (Nat.dvd_mul_left _ c))

/-- The search ends with the roundest of the candidates: a grid that it leaves has none of them. -/
theorem search_roundest (n z : Nat) (fuel : z ≤ n)
    (finest : ∀ j, b.Holds j → ¬ 10 ^ (z + 1) ∣ j) :
    0 ≤ (b.search .up n z).exponent ∧ Roundest b.Holds r (b.search .up n z).value := by
  induction n generalizing z with
  | zero =>
    obtain rfl : z = 0 := Nat.le_zero.1 fuel
    have same : (b.search .up 0 ((0 : Nat) : Int)).value = r := by
      simp only [Basin.search, value, centre, Nat.mul_div_cancel r positive]
      exact Nat.mul_one r
    refine ⟨le_rfl, ?_⟩
    rw [same]
    refine roundest_self own fun j y held divides => ?_
    rcases Nat.eq_zero_or_pos y with rfl | more
    · exact Nat.one_dvd r
    · exact absurd ((Nat.pow_dvd_pow 10 more).trans divides) (finest j held)
  | succ n ih =>
    rw [Basin.search]
    split
    · rename_i c found
      obtain ⟨whole, same⟩ :=
        trimZeros_value (digitCount c) (d := ⟨c, z⟩) (Int.natCast_nonneg z)
      refine ⟨whole, ?_⟩
      rw [same]
      exact onGrid_roundest positive centre own found finest
    · rename_i missed
      have none := fun j held => onGrid_none positive centre own missed (j := j) held
      obtain ⟨y, rfl⟩ : ∃ y, z = y + 1 := Nat.exists_eq_succ_of_ne_zero fun zero => by
        subst zero
        exact none r own (Nat.one_dvd r)
      rw [show ((y + 1 : Nat) : Int) - 1 = y by omega]
      exact ih y (by omega) none

end

/-! The basin of an integer. -/

theorem roundedNat_pow_ten {k : Nat} (small : k < 20) : roundedNat (10 ^ k) = 10 ^ k := by
  decide +revert +kernel

theorem scale_pos (e : Int) : 0 < (scaledPair 2 1 e).1 := by
  rw [scaledPair]
  split
  · exact Nat.mul_pos Nat.one_pos (Nat.pow_pos (by decide))
  · exact Nat.one_pos

variable {m : Nat} {e : Int}

theorem basin_holds_centre (least : -52 ≤ e)
    (rest : m * Nat.pow 2 (e + 52).toNat = r * Nat.pow 2 52) (low : Nat.pow 2 52 ≤ m) :
    (Basin.of .double m e).Holds r := by
  have middle := (centre_eq least rest).2
  rw [basin_of_double least] at middle ⊢
  have bits : Nat.pow 2 52 = 4503599627370496 := by decide
  have scale := scale_pos (e - 2)
  have below : lowQuarters m < 4 * m := by
    rw [lowQuarters]
    split <;> omega
  have first := Nat.mul_lt_mul_of_pos_right below scale
  have second := Nat.mul_lt_mul_of_pos_right (show 4 * m < 4 * m + 2 by omega) scale
  rw [Basin.Holds]
  dsimp only at middle ⊢
  omega

theorem not_dvd_of_rounded {j : Nat} (positive : 0 < r) (small : r < 10 ^ 19)
    (rounded : roundedNat j = r) : ¬ 10 ^ (digitCount r - 1 + 1) ∣ j := by
  have digits : digitCount r ≤ 19 := (Nat.length_toDigits_le_iff (by decide) (by decide)).2 small
  have some : 0 < digitCount r := Nat.length_toDigits_pos
  have less : r < 10 ^ digitCount r :=
    (Nat.length_toDigits_le_iff (b := 10) (by decide) some).1 le_rfl
  rw [Nat.sub_add_cancel some]
  intro divides
  rcases Nat.eq_zero_or_pos j with rfl | more
  · rw [show roundedNat 0 = 0 by decide] at rounded
    omega
  · have := roundedNat_mono (Nat.le_of_dvd more divides)
    rw [roundedNat_pow_ten (by omega), rounded] at this
    omega

/-- The shortest decimal of a whole number is the roundest integer that is rounded to it. -/
theorem shortest_roundest (least : -52 ≤ e)
    (rest : m * Nat.pow 2 (e + 52).toNat = r * Nat.pow 2 52) (low : Nat.pow 2 52 ≤ m)
    (high : m < Nat.pow 2 53) (positive : 0 < r) (small : r < 10 ^ 19) :
    0 ≤ (shortest .up m e).exponent ∧
      Roundest (roundedNat · = r) r (shortest .up m e).value := by
  obtain ⟨parts, centre⟩ := centre_eq least rest
  have own := basin_holds_centre least rest low
  have same : (Basin.of .double m e).Holds = (roundedNat · = r) :=
    funext fun j => propext (basin_holds_iff least rest low high j)
  have nonzero : m ≠ 0 := ((Nat.pow_pos (by decide)).trans_le low).ne'
  have digits : digitCount r ≤ 19 := (Nat.length_toDigits_le_iff (by decide) (by decide)).2 small
  have leading : leadingExponent (Basin.of .double m e).centre (Basin.of .double m e).den =
      (digitCount r - 1 : Nat) := by
    have some : 0 < digitCount r := Nat.length_toDigits_pos
    rw [leadingExponent, centre, if_pos (Nat.le_mul_of_pos_left _ positive),
      Nat.mul_div_cancel r parts]
    omega
  rw [shortest, if_neg nonzero, ← same]
  dsimp only
  rw [leading]
  refine search_roundest parts centre own 18 (digitCount r - 1) (by omega) fun j held => ?_
  rw [same] at held
  exact not_dvd_of_rounded positive small held

end Decimal

end TitleTemplate
