import TitleTemplate.Proofs.Number.Shortest
import TitleTemplate.Value.Basic

/-!
Integers written as the numbers that they become. Between `2 ^ 53` and `2 ^ 63` several integers
become one number, and one of them is written for all of them.
-/
namespace TitleTemplate

/-- The integer whose digits are written for the number that an integer becomes: of those that become
the same number the one with the most zeros at its end, and of these the nearest one. -/
def Written (i j : Int) : Prop :=
  ∃ k : Nat, j = i.sign * k ∧
    Roundest (roundedNat · = roundedNat i.natAbs) (roundedNat i.natAbs) k

theorem written_unique {i j k : Int} (first : Written i j) (second : Written i k) : j = k := by
  obtain ⟨a, rfl, best⟩ := first
  obtain ⟨b, rfl, best'⟩ := second
  rw [roundest_unique best best']

theorem eq_of_rounded_limit {n : Nat} (rounded : roundedNat n = Nat.pow 2 53) :
    n = Nat.pow 2 53 ∨ n = Nat.pow 2 53 + 1 := by
  have limit : Nat.pow 2 53 = 9007199254740992 := by decide
  rw [limit] at rounded ⊢
  have next : roundedNat 9007199254740994 = 9007199254740994 := by decide
  rcases Nat.lt_or_ge n 9007199254740992 with less | least
  · rw [roundedNat_of_small (by omega)] at rounded
    omega
  · rcases Nat.lt_or_ge n 9007199254740994 with less | more
    · omega
    · have := roundedNat_mono more
      omega

theorem written_of_small {i : Int} (small : i.natAbs ≤ Nat.pow 2 53) : Written i i := by
  refine ⟨i.natAbs, i.sign_mul_natAbs.symm, ?_⟩
  have own : roundedNat i.natAbs = i.natAbs := roundedNat_of_small small
  rw [own]
  refine roundest_self own fun j z rounded divides => ?_
  rcases small.lt_or_eq with less | same
  · rwa [(roundedNat_eq_small_iff less).1 rounded] at divides
  · rw [same] at rounded ⊢
    rcases eq_of_rounded_limit rounded with rfl | rfl
    · exact divides
    · rcases Nat.eq_zero_or_pos z with rfl | positive
      · exact Nat.one_dvd _
      · -- The other integer is odd.
        exact absurd ((dvd_pow_self 10 positive.ne').trans divides) (by decide)

theorem roundedNat_pos {n : Nat} (positive : 0 < n) : 0 < roundedNat n :=
  (show 0 < roundedNat 1 by decide).trans_le (roundedNat_mono positive)

theorem roundedNat_lt_of_small {n : Nat} (small : n ≤ Nat.pow 2 63) :
    roundedNat n < 10 ^ 19 := by
  refine (roundedNat_mono small).trans_lt ?_
  rw [roundedNat_pow]
  decide

theorem display_finite (negative : Bool) {m : Nat} {e : Int}
    (whole : 0 ≤ (Decimal.shortest .up m e).exponent) :
    (Value.display (.float (.finite negative m e))).toList =
      (if negative then ['-'] else []) ++
        Nat.toDigits 10 (Decimal.shortest .up m e).value := by
  rw [Value.display, NumberLayout.text, String.toList_ofList, NumberLayout.magnitude]
  simp only [NumberLayout.plain, Decimal.positional_whole whole, if_true, Bool.false_eq_true,
    false_and, if_false, List.append_nil]

theorem signOf_sign_mul (i : Int) {k : Nat} (positive : 0 < k) :
    signOf (i.sign * k) = if i < 0 then ['-'] else [] := by
  rcases lt_trichotomy i 0 with negative | rfl | more
  · rw [Int.sign_eq_neg_one_of_neg negative, signOf, if_pos (by omega), if_pos negative]
  · rw [Int.sign_zero, Int.zero_mul]
    rfl
  · rw [Int.sign_eq_one_of_pos more, signOf, if_neg (by omega), if_neg (by omega)]

theorem display_ofInt {i : Int} (small : i.natAbs ≤ Nat.pow 2 63) :
    ∃ j, Written i j ∧ Value.display (.float (Binary64.ofInt i)) = toString j := by
  by_cases zero : i = 0
  · subst zero
    exact ⟨0, written_of_small (by decide), rfl⟩
  have nonzero : 0 < i.natAbs := Int.natAbs_pos.2 zero
  have positive := roundedNat_pos nonzero
  obtain ⟨m, e, same, least, rest, low, high⟩ :=
    Binary64.round_one nonzero small (decide (i < 0))
  obtain ⟨whole, best⟩ := Decimal.shortest_roundest least rest low high positive
    (roundedNat_lt_of_small small)
  have some : 0 < (Decimal.shortest .up m e).value := Nat.pos_of_ne_zero fun none => by
    have rounded := best.holds
    rw [none, show roundedNat 0 = 0 by decide] at rounded
    omega
  refine ⟨_, ⟨_, rfl, best⟩, String.toList_inj.1 ?_⟩
  rw [Binary64.ofInt, same, display_finite _ whole, toList_toString, signOf_sign_mul i some,
    Int.natAbs_mul, Int.natAbs_sign_of_ne_zero zero, Nat.one_mul, Int.natAbs_natCast]
  simp only [decide_eq_true_eq]

end TitleTemplate
