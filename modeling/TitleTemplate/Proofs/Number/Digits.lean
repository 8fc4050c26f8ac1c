import Mathlib.Tactic.IntervalCases
import TitleTemplate.Proofs.Number.Numerals

/-!
Integers in decimal digits. The digits of a number are read back as the number, and a text that holds
the digits of an integer stands for the number that the integer itself stands for.
-/
namespace TitleTemplate

theorem isDigit_eq (c : Char) : isDigit c = c.isDigit := by
  rw [Bool.eq_iff_iff, isDigit_iff, Char.isDigit, Bool.and_eq_true, decide_eq_true_iff,
    decide_eq_true_iff]
  rfl

theorem isBlank_of_isDigit {c : Char} (digit : isDigit c = true) : isBlank c = false := by
  obtain ⟨least, greatest⟩ := isDigit_iff.1 digit
  have beyond : ∀ b, b < 48 → ¬ c.toNat < b := fun b _ => by omega
  have before : c.toNat < 133 := by omega
  simp [isBlank, CharSet.contains, blankChars, CharSet.crossed, beyond, before]

theorem areDigits_toDigits (n : Nat) : AreDigits (Nat.toDigits 10 n) := by
  intro c member
  rw [isDigit_eq]
  exact Nat.isDigit_of_mem_toDigits (by decide) (by decide) member

theorem ofDigits_toDigits (n : Nat) : ofDigits (Nat.toDigits 10 n) = n := by
  calc ofDigits (Nat.toDigits 10 n)
    _ = Nat.ofDigitChars 10 (Nat.toDigits 10 n) 0 := by
      rw [ofDigits, Nat.ofDigitChars_eq_foldl]
      refine List.foldl_ext _ _ _ fun sum c member => ?_
      have digit : '0' ≤ c ∧ c ≤ '9' := isDigit_iff.1 (areDigits_toDigits n c member)
      rw [digit?, if_pos digit, Option.getD_some]
    _ = n := Nat.ofDigitChars_ten_toDigits

theorem isDigit_digitChar {d : Nat} (small : d < 10) : isDigit (Nat.digitChar d) = true := by
  interval_cases d <;> decide

theorem digit_digitChar {d : Nat} (small : d < 10) : digit? (Nat.digitChar d) = some d := by
  interval_cases d <;> decide

theorem ofDigits_append (cs : List Char) {d : Nat} (small : d < 10) :
    ofDigits (cs ++ [Nat.digitChar d]) = 10 * ofDigits cs + d := by
  rw [ofDigits, List.foldl_append, ← ofDigits, List.foldl_cons, List.foldl_nil,
    digit_digitChar small, Option.getD_some]

theorem toDigits_mul_pow {n : Nat} (positive : 0 < n) (k : Nat) :
    Nat.toDigits 10 (n * Nat.pow 10 k) = Nat.toDigits 10 n ++ List.replicate k '0' := by
  induction k with
  | zero => simp
  | succ k ih =>
    have more := Nat.toDigits_append_toDigits (b := 10) (n := n * Nat.pow 10 k) (d := 0)
      (by decide) (Nat.mul_pos positive (Nat.pow_pos (by decide))) (by decide)
    have next : 10 * (n * Nat.pow 10 k) + 0 = n * Nat.pow 10 (k + 1) := by
      rw [Nat.pow_eq, Nat.pow_eq, Nat.pow_succ]
      ring
    rw [← next, ← more, ih, Nat.toDigits_zero, List.append_assoc, ← List.replicate_succ']

def signOf (i : Int) : List Char := if i < 0 then ['-'] else []

theorem signOf_eq_minus_iff (i : Int) : signOf i = ['-'] ↔ i < 0 := by
  rw [signOf]
  split
  · rename_i negative
    exact iff_of_true rfl negative
  · rename_i nonneg
    exact iff_of_false nofun nonneg

theorem isSign_signOf (i : Int) : IsSign (signOf i) := by
  rw [signOf]
  split
  · exact .minus
  · exact .absent

theorem toList_toString (i : Int) :
    (toString i).toList = signOf i ++ Nat.toDigits 10 i.natAbs := by
  rw [Int.toString_eq_repr, Int.repr_eq_if, signOf]
  split
  · rename_i nonneg
    have same : i.toNat = i.natAbs := by omega
    rw [if_neg (by omega), Nat.toList_repr, same, List.nil_append]
  · rename_i negative
    have same : (-i).toNat = i.natAbs := by omega
    rw [if_pos (by omega), String.toList_append, Nat.toList_repr, same]
    rfl

theorem toString_injective {i j : Int} (same : toString i = toString j) : i = j := by
  have digits (k : Int) :
      (signOf k ++ Nat.toDigits 10 k.natAbs).filter isDigit = Nat.toDigits 10 k.natAbs := by
    have noSign : (signOf k).filter isDigit = [] := by
      rw [signOf]
      split <;> decide
    rw [List.filter_append, noSign, List.nil_append]
    exact List.filter_eq_self.2 (areDigits_toDigits k.natAbs)
  have texts := congrArg String.toList same
  rw [toList_toString, toList_toString] at texts
  have sameDigits := congrArg (List.filter isDigit) texts
  rw [digits, digits] at sameDigits
  have magnitude : i.natAbs = j.natAbs := by
    rw [← ofDigits_toDigits i.natAbs, sameDigits, ofDigits_toDigits]
  rw [sameDigits] at texts
  have sign : i < 0 ↔ j < 0 := by
    rw [← signOf_eq_minus_iff, List.append_cancel_right texts, signOf_eq_minus_iff]
  omega

theorem trimBlanks_of_all {cs : List Char} (none : ∀ c ∈ cs, isBlank c = false) :
    trimBlanks cs = cs := by
  have kept : ∀ l : List Char, (∀ c ∈ l, isBlank c = false) → skipBlanks l = l := by
    intro l none
    cases l with
    | nil => rfl
    | cons c l => rw [skipBlanks, List.dropWhile_cons_of_neg (by simp [none c])]
  rw [trimBlanks, kept cs none, kept cs.reverse fun c member => none c (List.mem_reverse.1 member),
    List.reverse_reverse]

theorem trimBlanks_toString (i : Int) : trimBlanks (toString i).toList = (toString i).toList := by
  refine trimBlanks_of_all fun c member => ?_
  rw [toList_toString, List.mem_append] at member
  rcases member with inSign | inDigits
  · rw [signOf] at inSign
    split at inSign
    · rw [List.mem_singleton.1 inSign]
      decide
    · cases inSign
  · exact isBlank_of_isDigit (areDigits_toDigits _ c inDigits)

namespace Binary64

theorem readDecimal_toDigits (n : Nat) : readDecimal? (Nat.toDigits 10 n) = some ⟨n, 0⟩ := by
  have whole := @readDecimal_whole _ [] (areDigits_toDigits n) nofun
  rw [List.append_nil, if_neg Nat.toDigits_ne_nil, ofDigits_toDigits] at whole
  exact whole

theorem isDecimal_toDigits (n : Nat) : IsDecimal (Nat.toDigits 10 n) :=
  (readDecimal_isSome_iff _).1 (by rw [readDecimal_toDigits]; rfl)

theorem ofDecimal_whole (p : Precision) (negative : Bool) {n : Nat} (small : n < Nat.pow 10 20) :
    ofDecimal p negative ⟨n, 0⟩ = round p negative n 1 := by
  have digits : digitCount n ≤ 20 := (Nat.length_toDigits_le_iff (by decide) (by decide)).2 small
  have some : 0 < digitCount n := Nat.length_toDigits_pos
  by_cases zero : n = 0
  · rw [ofDecimal, if_pos zero, round, if_pos zero]
  · have power : scaledPair 10 n 0 = (n, 1) := by
      rw [scaledPair, if_pos le_rfl]
      exact congrArg (·, 1) (Nat.mul_one n)
    have leading : (Decimal.mk n 0).leading = (digitCount n : Int) - 1 := add_zero _
    rw [ofDecimal, if_neg zero, leading, if_neg (by omega), if_neg (by omega), power]

end Binary64

theorem number_toString {i : Int} (small : i.natAbs ≤ Nat.pow 2 63) :
    (Value.str (toString i)).number? = some (Binary64.ofInt i) := by
  have range : i.natAbs < Nat.pow 10 20 := by
    refine small.trans_lt ?_
    decide
  have negative : decide (signOf i = ['-']) = decide (i < 0) :=
    decide_eq_decide.2 (signOf_eq_minus_iff i)
  have read : Binary64.read? .double (toString i).toList = some (Binary64.ofInt i) := by
    rw [toList_toString, Binary64.read_decimal .double (isSign_signOf i)
      (Binary64.isDecimal_toDigits _), Binary64.readDecimal_toDigits, Option.map_some, negative,
      Binary64.ofDecimal_whole .double _ range]
    rfl
  rw [Value.number?, trimBlanks_toString, read, Option.filter_some,
    Binary64.isNaN_eq_false (Binary64.ofInt_ne_nan i)]
  rfl

end TitleTemplate
