import Mathlib.Data.String.Basic
import Mathlib.Data.Sum.Order
import TitleTemplate.Proofs.Value.Equality
import TitleTemplate.Proofs.Value.Integers

/-!
Sorting values. The order that sorting uses is the order of places on one line, which has the numbers
first and then the texts, and on which NaN is where zero is. So it is total and transitive on values
of all kinds together, and a sorted sequence holds the same items in ascending order, those at one
place as they came in.
-/
namespace TitleTemplate.Value

def sortPlace (v : Value) : WithBotTop ℚ ⊕ₗ String :=
  if v.isNumber then Sum.inlₗ (v.place?.getD (0 : ℚ)) else Sum.inrₗ v.display

theorem place_sortKey {v : Value} (number : v.isNumber = true) :
    v.sortKey.place? = some (v.place?.getD (0 : ℚ)) := by
  have zero : (Binary64.zero false).place? = some (0 : ℚ) := by
    simp [Binary64.zero, Binary64.place?, Binary64.rational]
  have placed : ∀ x : Binary64, x ≠ .nan → x.place? = some (x.place?.getD (0 : ℚ)) := by
    intro x some
    obtain ⟨p, atX⟩ := Option.ne_none_iff_exists'.1 ((Binary64.place_eq_none_iff x).not.2 some)
    rw [atX, Option.getD_some]
  cases v with
  | int n => exact placed _ (Binary64.ofInt_ne_nan n)
  | float x =>
    cases x with
    | nan => exact zero
    | infinite negative => exact placed (.infinite negative) Binary64.noConfusion
    | finite negative m e => exact placed (.finite negative m e) Binary64.noConfusion
  | _ => cases number

theorem compare_inl (p q : WithBotTop ℚ) :
    compare (Sum.inlₗ p : WithBotTop ℚ ⊕ₗ String) (Sum.inlₗ q) = compare p q := by
  rw [← cmp_eq_compare, ← cmp_eq_compare]
  exact Sum.Lex.inl_strictMono.cmp_map_eq p q

theorem compare_inr (s t : String) :
    compare (Sum.inrₗ s : WithBotTop ℚ ⊕ₗ String) (Sum.inrₗ t) = compare s t := by
  rw [← cmp_eq_compare, ← cmp_eq_compare]
  exact Sum.Lex.inr_strictMono.cmp_map_eq s t

theorem sortOrder_eq_compare (v w : Value) :
    v.sortOrder w = compare v.sortPlace w.sortPlace := by
  rw [sortOrder, sortPlace, sortPlace]
  cases number : v.isNumber <;> cases number' : w.isNumber
  · exact (compare_inr _ _).symm
  · exact (compare_gt_iff_gt.2 (Sum.Lex.inl_lt_inr _ _)).symm
  · exact (compare_lt_iff_lt.2 (Sum.Lex.inl_lt_inr _ _)).symm
  · simp only [Binary64.order_eq_compare, place_sortKey number, place_sortKey number',
      Option.map₂_some_some, Option.getD_some, if_true, compare_inl]

/-! The order is a total preorder. -/

theorem sortOrder_swap (v w : Value) : v.sortOrder w = (w.sortOrder v).swap := by
  rw [sortOrder_eq_compare, sortOrder_eq_compare, ← cmp_eq_compare, ← cmp_eq_compare, cmp_swap]

theorem sortOrder_ne_gt_iff (v w : Value) : v.sortOrder w ≠ .gt ↔ v.sortPlace ≤ w.sortPlace := by
  rw [sortOrder_eq_compare, ne_eq, compare_gt_iff_gt, not_lt]

theorem sortOrder_trans {u v w : Value} (first : u.sortOrder v ≠ .gt)
    (second : v.sortOrder w ≠ .gt) : u.sortOrder w ≠ .gt := by
  rw [sortOrder_ne_gt_iff] at *
  exact first.trans second

theorem sortOrder_total (v w : Value) : v.sortOrder w ≠ .gt ∨ w.sortOrder v ≠ .gt := by
  rw [sortOrder_ne_gt_iff, sortOrder_ne_gt_iff]
  exact le_total _ _

theorem sortOrder_of_tied {u v w : Value} (first : u.sortOrder v = .eq)
    (second : u.sortOrder w = .eq) : v.sortOrder w ≠ .gt := by
  rw [sortOrder_eq_compare, compare_eq_iff_eq] at first second
  rw [sortOrder_ne_gt_iff, ← first, ← second]

/-! Sorted sequences. -/

def sortAtMost (v w : Value) : Bool := v.sortOrder w != .gt

theorem sortAtMost_iff (v w : Value) : v.sortAtMost w = true ↔ v.sortOrder w ≠ .gt := bne_iff_ne

theorem sortAtMost_trans (u v w : Value) (first : u.sortAtMost v = true)
    (second : v.sortAtMost w = true) : u.sortAtMost w = true := by
  rw [sortAtMost_iff] at *
  exact sortOrder_trans first second

theorem sortAtMost_total (v w : Value) : (v.sortAtMost w || w.sortAtMost v) = true := by
  rw [Bool.or_eq_true, sortAtMost_iff, sortAtMost_iff]
  exact sortOrder_total v w

theorem sort_eq (items : List Value) : sort items = items.mergeSort sortAtMost := rfl

theorem sort_ascending (items : List Value) :
    (sort items).Pairwise fun v w => v.sortOrder w ≠ .gt := by
  rw [sort_eq]
  refine (List.pairwise_mergeSort sortAtMost_trans sortAtMost_total items).imp ?_
  intro v w atMost
  exact (sortAtMost_iff v w).1 atMost

theorem filter_sort (v : Value) (items : List Value) :
    (sort items).filter (v.sortOrder · = .eq) = items.filter (v.sortOrder · = .eq) := by
  rw [sort_eq]
  refine filter_mergeSort_of_tied sortAtMost_trans sortAtMost_total ?_ items
  intro x y first second
  exact (sortAtMost_iff x y).2
    (sortOrder_of_tied (of_decide_eq_true first) (of_decide_eq_true second))

theorem sort_of_ascending {items : List Value}
    (ascending : items.Pairwise fun v w => v.sortOrder w ≠ .gt) : sort items = items := by
  rw [sort_eq]
  exact List.mergeSort_of_pairwise (ascending.imp (sortAtMost_iff _ _).2)

theorem numbers_first {items : List Value}
    (ascending : items.Pairwise fun v w => v.sortOrder w ≠ .gt) :
    ∃ numbers others, items = numbers ++ others ∧ (∀ v ∈ numbers, v.isNumber = true) ∧
      ∀ v ∈ others, v.isNumber = false := by
  induction items with
  | nil => exact ⟨[], [], rfl, nofun, nofun⟩
  | cons first rest ih =>
    obtain ⟨atMost, ascending'⟩ := List.pairwise_cons.1 ascending
    cases number : first.isNumber with
    | true =>
      obtain ⟨numbers, others, rfl, allNumbers, noNumbers⟩ := ih ascending'
      exact ⟨first :: numbers, others, rfl, List.forall_mem_cons.2 ⟨number, allNumbers⟩, noNumbers⟩
    | false =>
      refine ⟨[], first :: rest, rfl, nofun, List.forall_mem_cons.2 ⟨number, fun v member => ?_⟩⟩
      have before := atMost v member
      cases number' : v.isNumber with
      | false => rfl
      | true => simp [sortOrder, number, number'] at before

/-- Sorting compares the places of values, so its order mirrors when its sides are exchanged, is
transitive and total. What it makes of a sequence is the same items in ascending order, numbers
first, and those that tie with any one value in the order they came in; sorted again it stays. -/
theorem sort_ascending_stable (u v w : Value) (items args : List Value) (limit : Option Nat) :
    v.sortOrder w = compare v.sortPlace w.sortPlace ∧
    v.sortOrder w = (w.sortOrder v).swap ∧
    (u.sortOrder v ≠ .gt → v.sortOrder w ≠ .gt → u.sortOrder w ≠ .gt) ∧
    (v.sortOrder w ≠ .gt ∨ w.sortOrder v ≠ .gt) ∧
    ∃ sorted,
      (ModifierName.known .sort).apply (.seq items) args limit = pure (.seq sorted) ∧
      sorted.Perm items ∧
      (∃ numbers others, sorted = numbers ++ others ∧ (∀ x ∈ numbers, x.isNumber = true) ∧
        ∀ x ∈ others, x.isNumber = false) ∧
      (sorted.Pairwise fun x y => x.sortOrder y ≠ .gt) ∧
      (∀ x : Value, sorted.filter (x.sortOrder · = .eq) = items.filter (x.sortOrder · = .eq)) ∧
      (ModifierName.known .sort).apply (.seq sorted) args limit = pure (.seq sorted) := by
  refine ⟨sortOrder_eq_compare v w, sortOrder_swap v w, sortOrder_trans, sortOrder_total v w,
    sort items, rfl, List.mergeSort_perm items _, numbers_first (sort_ascending items),
    sort_ascending items, fun x => filter_sort x items, ?_⟩
  have again : sort (sort items) = sort items := sort_of_ascending (sort_ascending items)
  exact congrArg (fun items => (pure (Value.seq items) : Logged Value)) again

/-- NaN stands no later than the negative zero, and so before what is none. -/
theorem sort_ascending_mixed :
    let nan : Value := .float .nan
    let zero : Value := .float (Binary64.zero true)
    nan.sortOrder zero ≠ .gt ∧ zero.sortOrder .none ≠ .gt ∧ nan.sortOrder .none ≠ .gt := by
  intro nan zero
  have first : nan.sortOrder zero ≠ .gt := by decide +kernel
  have second : zero.sortOrder .none ≠ .gt := by decide +kernel
  obtain ⟨-, -, transitive, -⟩ := sort_ascending_stable nan zero .none [] [] .none
  exact ⟨first, second, transitive first second⟩

end TitleTemplate.Value
