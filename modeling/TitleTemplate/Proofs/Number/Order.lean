import Mathlib.Algebra.Order.Field.Power
import Mathlib.Algebra.Order.Field.Rat
import Mathlib.Data.Option.NAry
import Mathlib.Order.Compare
import Mathlib.Order.WithBotTop
import Mathlib.Tactic.NormNum
import Mathlib.Tactic.Positivity
import Mathlib.Tactic.Ring
import TitleTemplate.Proofs.Number.Integers

/-!
The order of binary floating-point numbers. Every number but NaN has a place on the line of the
rational numbers, to which the infinities are the two ends, and comparing numbers compares their
places. So equality of numbers is symmetric and transitive, and only NaN is not equal to itself.
-/
namespace TitleTemplate.Binary64

def rational (negative : Bool) (m : Nat) (e : Int) : ℚ :=
  (if negative then -(m : ℚ) else m) * 2 ^ e

/-- The place of a number. The two zeros have one place, and NaN has none. -/
def place? : Binary64 → Option (WithBotTop ℚ)
  | .nan => none
  | .infinite negative => some (if negative then ⊥ else ⊤)
  | .finite negative m e => some (rational negative m e : ℚ)

theorem rational_eq_inUnits {unit e : Int} (fits : unit ≤ e) (negative : Bool) (m : Nat) :
    rational negative m e = inUnits unit negative m e * 2 ^ unit := by
  have power : (2 : ℚ) ^ e = 2 ^ (e - unit).toNat * 2 ^ unit := by
    rw [← zpow_natCast, ← zpow_add₀ (by norm_num), Int.toNat_of_nonneg (by omega),
      sub_add_cancel]
  simp only [rational, inUnits, power]
  split <;> push_cast [Nat.pow_eq] <;> ring

theorem compare_places (unit a b : Int) :
    compare ((a * 2 ^ unit : ℚ) : WithBotTop ℚ) (b * 2 ^ unit : ℚ) = compare a b := by
  have positive : (0 : ℚ) < 2 ^ unit := by positivity
  have increasing : StrictMono fun k : Int => ((k * 2 ^ unit : ℚ) : WithBotTop ℚ) := by
    intro j k less
    rw [WithBotTop.coe_lt_coe]
    exact mul_lt_mul_of_pos_right (by exact_mod_cast less) positive
  rw [← cmp_eq_compare, ← cmp_eq_compare]
  exact increasing.cmp_map_eq a b

theorem order_eq_compare (x y : Binary64) :
    x.order y = Option.map₂ compare x.place? y.place? := by
  have below_top : ∀ q : ℚ, (q : WithBotTop ℚ) < ⊤ := fun q =>
    lt_top_iff_ne_top.2 (WithBotTop.coe_ne_top q)
  have above_bot : ∀ q : ℚ, ⊥ < (q : WithBotTop ℚ) := fun q =>
    bot_lt_iff_ne_bot.2 (WithBotTop.coe_ne_bot q)
  cases x with
  | nan => rfl
  | infinite a =>
    cases y with
    | nan => rfl
    | infinite b => cases a <;> cases b <;> rfl
    | finite b n f =>
      cases a with
      | false => exact congrArg some (compare_gt_iff_gt.2 (below_top _)).symm
      | true => exact congrArg some (compare_lt_iff_lt.2 (above_bot _)).symm
  | finite a m e =>
    cases y with
    | nan => rfl
    | infinite b =>
      cases b with
      | false => exact congrArg some (compare_lt_iff_lt.2 (below_top _)).symm
      | true => exact congrArg some (compare_gt_iff_gt.2 (above_bot _)).symm
    | finite b n f =>
      rw [order, place?, place?, rational_eq_inUnits (min_le_left e f),
        rational_eq_inUnits (min_le_right e f), Option.map₂_some_some, compare_places]

theorem place_eq_none_iff (x : Binary64) : x.place? = none ↔ x = .nan := by
  cases x <;> simp [place?]

theorem equal_iff (x y : Binary64) :
    x.equal y = true ↔ ∃ p, x.place? = some p ∧ y.place? = some p := by
  rw [equal, beq_iff_eq, order_eq_compare]
  cases x.place? with
  | none => simp
  | some p =>
    cases y.place? with
    | none => simp
    | some q =>
      rw [Option.map₂_some_some, Option.some_inj, compare_eq_iff_eq]
      simp [eq_comm]

theorem equal_self_iff (x : Binary64) : x.equal x = true ↔ x ≠ .nan := by
  rw [equal_iff, ne_eq, ← place_eq_none_iff, ← ne_eq, Option.ne_none_iff_exists']
  simp only [and_self]

theorem round_ne_nan (p : Precision) (negative : Bool) (num den : Nat) :
    round p negative num den ≠ .nan := by
  simp only [round, zero]
  split_ifs <;> exact Binary64.noConfusion

theorem ofInt_ne_nan (n : Int) : ofInt n ≠ .nan := round_ne_nan _ _ _ _

end TitleTemplate.Binary64
