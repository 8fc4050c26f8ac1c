import TitleTemplate.Proofs.Modifier.NumericText
import TitleTemplate.Proofs.Number.Hundredths
import TitleTemplate.Proofs.Number.Quotients

/-!
Sizes in units of powers of 1024. Division by 1024 is exact as long as the format holds the integer,
so the unit is the right one for the quotient, and what is printed is the quotient rounded to two
places. The rounding comes after the choice of the unit: just below the next unit 1024 is printed.
-/
namespace TitleTemplate

def sizeUnits : List String := ["B", "KB", "MB", "GB", "TB", "PB"]

theorem scaleUnits_exact {m : Nat} (low : 2 ^ 52 ≤ m) (high : m < 2 ^ 53) (rest : List String) :
    ∀ (e : Int) (unit : String), 10 * (rest.length : Int) - 1064 ≤ e → e < 981 →
      ∃ (k : Nat) (last : String), (unit :: rest)[k]? = some last ∧
        scaleUnits (Binary64.ofNat 1024) (.finite false m e) unit rest =
          (.finite false m (e - 10 * k), last) ∧
        (k ≠ 0 → 1 ≤ (m : ℚ) * 2 ^ (e - 10 * k)) ∧
        (k < rest.length → (m : ℚ) * 2 ^ (e - 10 * k) < 1024) := by
  have base : Binary64.ofNat 1024 = .finite false (2 ^ 52) (-42) := by decide
  have reached (e : Int) :
      (Binary64.ofNat 1024).atMost (.finite false m e) = true ↔ 1024 ≤ (m : ℚ) * 2 ^ e := by
    have place : Binary64.rational false (2 ^ 52) (-42) = 1024 := by
      rw [Binary64.rational]
      norm_num
    rw [base, Binary64.atMost_finite_iff, place]
    rfl
  induction rest with
  | nil =>
    intro e unit _ _
    refine ⟨0, unit, rfl, ?_, fun some => absurd rfl some, fun less => absurd less (Nat.not_lt_zero _)⟩
    rw [scaleUnits, Nat.cast_zero, mul_zero, sub_zero]
  | cons next rest ih =>
    intro e unit least room
    rw [List.length_cons, Nat.cast_succ] at least
    rw [scaleUnits]
    split
    · rename_i enough
      rw [reached] at enough
      obtain ⟨k, last, place, same, lower, upper⟩ := ih (e - 10) next (by omega) (by omega)
      have moved : e - 10 * ((k + 1 : Nat) : Int) = e - 10 - 10 * k := by
        push_cast
        ring
      rw [Binary64.div_1024 low high (by omega) room]
      refine ⟨k + 1, last, place, by rw [same, moved], fun _ => ?_, fun less => ?_⟩
      · rw [moved]
        rcases Nat.eq_zero_or_pos k with rfl | some
        · rw [Nat.cast_zero, mul_zero, sub_zero, zpow_sub₀ (by norm_num), ← mul_div_assoc,
            one_le_div (by norm_num)]
          exact enough.trans' (by norm_num)
        · exact lower some.ne'
      · rw [moved]
        exact upper (Nat.succ_lt_succ_iff.1 less)
    · rename_i below
      rw [reached, not_le] at below
      refine ⟨0, unit, rfl, ?_, fun some => absurd rfl some, fun _ => ?_⟩
      · rw [Nat.cast_zero, mul_zero, sub_zero]
      · rwa [Nat.cast_zero, mul_zero, sub_zero]

theorem isNegative_ofInt {n : Int} (small : n.natAbs ≤ Nat.pow 2 53) :
    (Binary64.ofInt n).isNegative = true ↔ n < 0 := by
  have limit : Nat.pow 2 53 ≤ Nat.pow 2 63 := Nat.pow_le_pow_right (by decide) (by decide)
  have ordered := Binary64.order_ofInt (m := 0) (small.trans limit) (Nat.zero_le _)
  have zero : Binary64.ofInt 0 = Binary64.zero false := by decide
  rw [zero, roundedInt_of_small small, roundedInt_of_small (Nat.zero_le _)] at ordered
  rw [Binary64.isNegative, Binary64.less, ordered, beq_iff_eq, Option.some_inj, compare_lt_iff_lt]

theorem scaleUnits_ofInt {n : Int} (nonzero : n ≠ 0) (small : n.natAbs < Nat.pow 2 53) :
    ∃ k unit m e, sizeUnits[k]? = some unit ∧
      scaleUnits (Binary64.ofNat 1024) (Binary64.ofInt n).abs "B" ["KB", "MB", "GB", "TB", "PB"] =
        (.finite false m e, unit) ∧
      (m : ℚ) * 2 ^ e = n.natAbs / (1024 ^ k : Nat) ∧ 1024 ^ k ≤ n.natAbs ∧
      n.natAbs < 1024 ^ (k + 1) := by
  obtain ⟨m, e, same, low, high, least, most, value⟩ := Binary64.ofInt_exact nonzero small
  have absolute : (Binary64.ofInt n).abs = .finite false m e := by
    rw [same]
    rfl
  obtain ⟨k, unit, place, scaled, lower, upper⟩ :=
    scaleUnits_exact low high ["KB", "MB", "GB", "TB", "PB"] e "B" (by simp; omega) (by omega)
  have base : (0 : ℚ) < (1024 ^ k : Nat) := by exact_mod_cast Nat.pow_pos (by decide)
  have quotient : (m : ℚ) * 2 ^ (e - 10 * k) = n.natAbs / (1024 ^ k : Nat) := by
    have power : (2 : ℚ) ^ (10 * (k : Int)) = (1024 ^ k : Nat) := by
      rw [zpow_mul, zpow_natCast, Nat.cast_pow]
      norm_num
    rw [zpow_sub₀ (by norm_num), power, ← mul_div_assoc, value]
  rw [quotient, one_le_div base] at lower
  rw [quotient, div_lt_iff₀ base] at upper
  refine ⟨k, unit, m, e - 10 * k, place, absolute ▸ scaled, quotient, ?_, ?_⟩
  · by_cases first : k = 0
    · rw [first]
      exact Int.natAbs_pos.2 nonzero
    · exact_mod_cast lower first
  · by_cases last : k < 5
    · rw [Nat.pow_succ']
      exact_mod_cast upper last
    · have more : 1024 ^ 6 ≤ 1024 ^ (k + 1) := Nat.pow_le_pow_right (by decide) (by omega)
      exact small.trans ((by decide : Nat.pow 2 53 < 1024 ^ 6).trans_le more)

theorem sizeText_ofInt {n : Int} (small : n.natAbs < Nat.pow 2 53) :
    ∃ k unit, sizeUnits[k]? = some unit ∧ (k ≠ 0 → 1024 ^ k ≤ n.natAbs) ∧
      n.natAbs < 1024 ^ (k + 1) ∧
      sizeText 1024 (Binary64.ofInt n) = some (String.ofList (signOf n ++
        hundredthsText (nearestEven (n.natAbs * 100) (1024 ^ k)) ++ ' ' :: unit.toList)) := by
  rcases eq_or_ne n 0 with rfl | nonzero
  · exact ⟨0, "B", rfl, fun some => absurd rfl some, by decide, by decide⟩
  obtain ⟨k, unit, m, e, place, scaled, quotient, reached, within⟩ :=
    scaleUnits_ofInt nonzero small
  refine ⟨k, unit, place, fun _ => reached, within, ?_⟩
  obtain ⟨positive, rational⟩ := scaledPair_rational m e
  have base : 0 < 1024 ^ k := Nat.pow_pos (by decide)
  have hundredths : nearestEven ((scaledPair 2 m e).1 * Nat.pow 10 2) (scaledPair 2 m e).2 =
      nearestEven (n.natAbs * 100) (1024 ^ k) :=
    hundredths_congr positive base (rational.trans quotient)
  have shown : hundredthsText (nearestEven (n.natAbs * 100) (1024 ^ k)) ≠ ['0'] := by
    have least : 1 ≤ nearestEven (n.natAbs * 100) (1024 ^ k) := le_nearestEven base (by omega)
    exact hundredthsText_ne_zero least
  rw [sizeText, scaled]
  simp only [Decimal.fixed, hundredths, dropEnd_pointed, isNegative_ofInt small.le, ne_eq, shown,
    not_false_eq_true, and_true, signOf]

/-- A size in units of powers of 1024 is printed in the largest unit that the number reaches, with a
minus sign when it is negative, and within half of a hundredth of what it makes in that unit. The
number printed is at least one except in the smallest unit, and less than 1024 unless that lies within
half of a hundredth of it: then 1024 is printed and not one of the next unit. -/
theorem binary_size_printed {n : Int} (small : n.natAbs < Nat.pow 2 53) (args : List Value)
    (limit : Option Nat) :
    ∃ k unit digits d, sizeUnits[k]? = some unit ∧
      (k ≠ 0 → 1024 ^ k ≤ n.natAbs) ∧ n.natAbs < 1024 ^ (k + 1) ∧
      ((ModifierName.known .bytes).apply (.int n) args limit).value =
        .str (String.ofList (signOf n ++ digits ++ ' ' :: unit.toList)) ∧
      IsShortDecimal digits ∧ Binary64.readDecimal? digits = some d ∧
      |d.rational - n.natAbs / 1024 ^ k| ≤ 1 / 200 ∧ (unit ≠ "B" → 1 ≤ d.rational) ∧
      d.rational ≤ 1024 ∧
      (d.rational < 1024 ↔ (n.natAbs : ℚ) / 1024 ^ k < 1024 - 1 / 200) := by
  obtain ⟨k, unit, place, reached, within, printed⟩ := sizeText_ofInt small
  have positive : 0 < 1024 ^ k := Nat.pow_pos (by decide)
  obtain ⟨d, read, number⟩ := readDecimal_hundredths (nearestEven (n.natAbs * 100) (1024 ^ k))
  refine ⟨k, unit, _, d, place, reached, within, ?_, isShortDecimal_hundredths _, read, ?_⟩
  · rw [apply_known, Modifier.transform, Logged.value_pure, number_int, Option.bind_some, printed]
    rfl
  · rw [number]
    refine ⟨?_, fun larger => one_le_hundredths positive (reached ?_), ?_, ?_⟩
    · exact_mod_cast hundredths_near positive
    · rintro rfl
      exact larger (Option.some.inj place).symm
    · rw [pow_succ'] at within
      exact hundredths_le positive 1024 within.le
    · exact_mod_cast hundredths_lt_iff positive 1024

theorem binary_size_printed_negative :
    let size := ((ModifierName.known .bytes).apply (.int (-1536)) [] none).value
    (-1536 : Int).natAbs < Nat.pow 2 53 ∧ size = .str "-1.5 KB" ∧
      ∃ (k : Nat) (unit : String) (digits : List Char) (d : Decimal), sizeUnits[k]? = some unit ∧
        size = .str (String.ofList ('-' :: digits ++ ' ' :: unit.toList)) ∧
        Binary64.readDecimal? digits = some d ∧ |d.rational - 1536 / 1024 ^ k| ≤ 1 / 200 := by
  intro size
  have small : (-1536 : Int).natAbs < Nat.pow 2 53 := by decide
  obtain ⟨k, unit, digits, d, place, -, -, printed, -, read, near, -⟩ :=
    binary_size_printed small [] none
  exact ⟨small, rfl, k, unit, digits, d, place, printed, read, by exact_mod_cast near⟩

/-- One less than the next unit is printed as 1024 of the smaller one. -/
theorem binary_size_of_1024 :
    let size := ((ModifierName.known .bytes).apply (.int 1048575) [] none).value
    size = .str "1024 KB" ∧ (1048575 : Int).natAbs < 1024 ^ 2 :=
  ⟨rfl, by decide⟩

end TitleTemplate
