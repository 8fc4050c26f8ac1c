import TitleTemplate.Modifier.Apply
import TitleTemplate.Proofs.Number.Integers
import TitleTemplate.Template.Render

/-!
Comparing and sorting integers of 64 bits. Both take an integer for the floating-point number
nearest to it, while equality of values does not. So two integers that become one number count as
equal in a comparison, and sorting leaves them as they stood.
-/
namespace TitleTemplate

/-! Sorting by a key. -/

section Sorting

variable {α : Type} (key : α → Int)

def keyAtMost (x y : α) : Bool := key x ≤ key y

theorem keyAtMost_trans (x y z : α) (first : keyAtMost key x y = true)
    (second : keyAtMost key y z = true) : keyAtMost key x z = true := by
  simp only [keyAtMost, decide_eq_true_eq] at *
  omega

theorem keyAtMost_total (x y : α) : (keyAtMost key x y || keyAtMost key y x) = true := by
  simp only [keyAtMost, Bool.or_eq_true, decide_eq_true_eq]
  omega

theorem pairwise_mergeSort_key (l : List α) :
    (l.mergeSort (keyAtMost key)).Pairwise fun x y => key x ≤ key y :=
  (List.pairwise_mergeSort (keyAtMost_trans key) (keyAtMost_total key) l).imp of_decide_eq_true

theorem filter_mergeSort_of_tied {le : α → α → Bool}
    (trans : ∀ x y z, le x y = true → le y z = true → le x z = true)
    (total : ∀ x y, (le x y || le y x) = true) {p : α → Bool}
    (tied : ∀ x y, p x = true → p y = true → le x y = true) (l : List α) :
    (l.mergeSort le).filter p = l.filter p := by
  have ascending : (l.filter p).Pairwise fun x y => le x y = true :=
    List.pairwise_of_forall_mem_list fun x first y second =>
      tied x y (List.mem_filter.1 first).2 (List.mem_filter.1 second).2
  have kept := (List.sublist_mergeSort trans total ascending List.filter_sublist).filter p
  simp only [List.filter_filter, Bool.and_self] at kept
  exact (kept.eq_of_length_le ((List.mergeSort_perm l _).filter _).length_eq.le).symm

theorem filter_mergeSort_key (l : List α) (k : Int) :
    (l.mergeSort (keyAtMost key)).filter (key · = k) = l.filter (key · = k) := by
  refine filter_mergeSort_of_tied (keyAtMost_trans key) (keyAtMost_total key) ?_ l
  intro x y first second
  simp only [decide_eq_true_eq] at first second
  simp only [keyAtMost, first, second, le_refl, decide_true]

theorem pair_sublist_mergeSort_key (l : List α) {x y : α} (same : key x = key y) :
    [x, y].Sublist (l.mergeSort (keyAtMost key)) ↔ [x, y].Sublist l := by
  have classOf : [x, y].filter (key · = key x) = [x, y] := by simp [same]
  constructor <;> intro pair
  · have kept := pair.filter (key · = key x)
    rw [classOf, filter_mergeSort_key] at kept
    exact kept.trans List.filter_sublist
  · have kept := pair.filter (key · = key x)
    rw [classOf, ← filter_mergeSort_key] at kept
    exact kept.trans List.filter_sublist

theorem pairwise_class_mergeSort (related : α → α → Prop) (l : List α) :
    ((l.mergeSort (keyAtMost key)).Pairwise fun x y => key x = key y → related x y) ↔
      l.Pairwise fun x y => key x = key y → related x y := by
  simp only [List.pairwise_iff_forall_sublist]
  constructor <;> intro all x y pair same
  · exact all ((pair_sublist_mergeSort_key key l same).2 pair) same
  · exact all ((pair_sublist_mergeSort_key key l same).1 pair) same

end Sorting

/-! Integers of 64 bits. -/

def Value.ofInt64 (n : Int64) : Value := .int n.toInt

def roundedInt64 (n : Int64) : Int := roundedInt n.toInt

/-- Whether rounding keeps two integers apart, unless they are the same. -/
def KeptApart (a b : Int64) : Prop := roundedInt64 a = roundedInt64 b → a = b

theorem natAbs_int64 (n : Int64) : n.toInt.natAbs ≤ Nat.pow 2 63 := by
  have lower := n.le_toInt
  have upper := n.toInt_lt
  have power : Nat.pow 2 63 = 2 ^ 63 := rfl
  omega

theorem order_ofInt64 (a b : Int64) :
    (Binary64.ofInt a.toInt).order (Binary64.ofInt b.toInt) =
      some (compare (roundedInt64 a) (roundedInt64 b)) :=
  Binary64.order_ofInt (natAbs_int64 a) (natAbs_int64 b)

theorem roundedInt64_mono {a b : Int64} (le : a.toInt ≤ b.toInt) :
    roundedInt64 a ≤ roundedInt64 b :=
  roundedInt_mono le

theorem keptApart_of_small {a b : Int64} (small : a.toInt.natAbs < Nat.pow 2 53) :
    KeptApart a b :=
  fun same => Int64.toInt_inj.1 (eq_of_roundedInt_eq small same)

theorem KeptApart.symm {a b : Int64} (apart : KeptApart a b) : KeptApart b a :=
  fun same => (apart same.symm).symm

theorem keptApart_of_far {a b : Int64} (far : 1024 < (a.toInt - b.toInt).natAbs) :
    KeptApart a b := by
  intro same
  have first := roundedInt_near (natAbs_int64 a)
  have second := roundedInt_near (natAbs_int64 b)
  rw [roundedInt64, roundedInt64] at same
  omega

/-- The answer of a comparison for numbers that stand in this order. -/
def Comparison.ofOrder : Comparison → Ordering → Bool
  | .eq, order => order.isEq
  | .ne, order => order.isNe
  | .gt, order => order.isGT
  | .gte, order => order.isGE
  | .lt, order => order.isLT
  | .lte, order => order.isLE
  | .contains, _ => false

namespace Value

/-- Two values that are compared and sorted as numbers that stand in this order. -/
structure StandsTo (v w : Value) (order : Ordering) : Prop where
  compared : ∀ op : Comparison, op ≠ .contains → op.holds v w = op.ofOrder order
  sorted : v.sortOrder w = order

theorem standsTo_ofInt64 (a b : Int64) :
    (ofInt64 a).StandsTo (ofInt64 b) (compare (roundedInt64 a) (roundedInt64 b)) := by
  have forth := order_ofInt64 a b
  have back := order_ofInt64 b a
  rw [← Int.compare_swap (roundedInt64 a)] at back
  refine ⟨fun op numeric => ?_, ?_⟩
  · simp only [ofInt64]
    generalize compare (roundedInt64 a) (roundedInt64 b) = order at forth back
    cases op with
    | contains => exact absurd rfl numeric
    | _ =>
      simp only [Comparison.holds, matchesLiteral, orderedBy, number?, Binary64.equal,
        Binary64.less, Binary64.atMost, forth, back]
      cases order <;> rfl
  · simp only [sortOrder, ofInt64, isNumber, sortKey, number?, Option.getD_some, forth]

theorem compare_rounded_iff (a b : Int64) :
    compare (roundedInt64 a) (roundedInt64 b) = compare a.toInt b.toInt ↔ KeptApart a b := by
  constructor
  · intro alike same
    rw [compare_eq_iff_eq.2 same, eq_comm, compare_eq_iff_eq] at alike
    exact Int64.toInt_inj.1 alike
  · intro apart
    rcases lt_trichotomy (roundedInt64 a) (roundedInt64 b) with less | same | more
    · have less' : a.toInt < b.toInt := lt_of_not_ge fun le => less.not_ge (roundedInt64_mono le)
      rw [compare_lt_iff_lt.2 less, compare_lt_iff_lt.2 less']
    · rw [apart same, compare_eq_iff_eq.2 rfl, compare_eq_iff_eq.2 rfl]
    · have more' : b.toInt < a.toInt := lt_of_not_ge fun le => more.not_ge (roundedInt64_mono le)
      rw [compare_gt_iff_gt.2 more, compare_gt_iff_gt.2 more']

theorem standsTo_exact_iff (a b : Int64) :
    (ofInt64 a).StandsTo (ofInt64 b) (compare a.toInt b.toInt) ↔ KeptApart a b := by
  rw [← compare_rounded_iff]
  constructor
  · intro stands
    exact (standsTo_ofInt64 a b).sorted.symm.trans stands.sorted
  · intro alike
    rw [← alike]
    exact standsTo_ofInt64 a b

theorem equal_same_iff (a b : Int64) :
    Comparison.eq.holds (ofInt64 a) (ofInt64 b) = (ofInt64 a).same (ofInt64 b) ↔
      KeptApart a b := by
  have compared : Comparison.eq.holds (ofInt64 a) (ofInt64 b) = true ↔
      roundedInt64 a = roundedInt64 b := by
    rw [(standsTo_ofInt64 a b).compared .eq (by decide), Comparison.ofOrder,
      Ordering.isEq_iff_eq_eq, compare_eq_iff_eq]
  have equal : (ofInt64 a).same (ofInt64 b) = true ↔ a = b := by
    rw [ofInt64, ofInt64, same, beq_iff_eq, Int64.toInt_inj]
  rw [Bool.eq_iff_iff, compared, equal, KeptApart]
  constructor
  · exact Iff.mp
  · intro apart
    exact ⟨apart, congrArg roundedInt64⟩

theorem sort_ofInt64 (ns : List Int64) :
    sort (ns.map ofInt64) = (ns.mergeSort (keyAtMost roundedInt64)).map ofInt64 := by
  refine (List.map_mergeSort fun a _ b _ => ?_).symm
  rw [(standsTo_ofInt64 a b).sorted, keyAtMost, Bool.eq_iff_iff, decide_eq_true_iff, bne_iff_ne,
    ne_eq, compare_gt_iff_gt, not_lt]

theorem ascending_mergeSort_iff (ns : List Int64) :
    ((ns.mergeSort (keyAtMost roundedInt64)).Pairwise fun a b => a.toInt ≤ b.toInt) ↔
      ns.Pairwise fun a b => roundedInt64 a = roundedInt64 b → a.toInt ≤ b.toInt := by
  rw [← pairwise_class_mergeSort]
  constructor
  · intro ascending
    refine ascending.imp ?_
    intro a b le _
    exact le
  · intro classes
    refine classes.imp₂ (fun a b within le => ?_) (pairwise_mergeSort_key roundedInt64 ns)
    rcases le.lt_or_eq with less | same
    · exact le_of_not_gt fun more => less.not_ge (roundedInt64_mono more.le)
    · exact within same

/-- Comparing takes two integers of 64 bits for what they are rounded to. It agrees with their order
and with their equality as values if, and only if, rounding keeps them apart, as it does when one of
them is below `2 ^ 53` or when there is more than 1024 between them. Sorting puts the rounded numbers
in ascending order and leaves those that are equal as they stood, so that the integers themselves are
in order if those that are rounded to one number were. -/
theorem integers_exact_iff (a b : Int64) (ns : List Int64) (args : List Value)
    (limit : Option Nat) :
    (ofInt64 a).StandsTo (ofInt64 b) (compare (roundedInt64 a) (roundedInt64 b)) ∧
    ((ofInt64 a).StandsTo (ofInt64 b) (compare a.toInt b.toInt) ↔ KeptApart a b) ∧
    (Comparison.eq.holds (ofInt64 a) (ofInt64 b) = (ofInt64 a).same (ofInt64 b) ↔
      KeptApart a b) ∧
    (a.toInt.natAbs < Nat.pow 2 53 ∨ b.toInt.natAbs < Nat.pow 2 53 ∨
      1024 < (a.toInt - b.toInt).natAbs → KeptApart a b) ∧
    ∃ sorted : List Int64,
      (ModifierName.known .sort).apply (.seq (ns.map ofInt64)) args limit =
        pure (.seq (sorted.map ofInt64)) ∧
      sorted.Perm ns ∧
      (sorted.Pairwise fun a b => roundedInt64 a ≤ roundedInt64 b) ∧
      (∀ k, sorted.filter (roundedInt64 · = k) = ns.filter (roundedInt64 · = k)) ∧
      ((sorted.Pairwise fun a b => a.toInt ≤ b.toInt) ↔
        ns.Pairwise fun a b => roundedInt64 a = roundedInt64 b → a.toInt ≤ b.toInt) := by
  refine ⟨standsTo_ofInt64 a b, standsTo_exact_iff a b, equal_same_iff a b, ?_,
    ns.mergeSort (keyAtMost roundedInt64), ?_, List.mergeSort_perm ns _,
    pairwise_mergeSort_key roundedInt64 ns, filter_mergeSort_key roundedInt64 ns,
    ascending_mergeSort_iff ns⟩
  · rintro (small | small | far)
    · exact keptApart_of_small small
    · exact (keptApart_of_small small).symm
    · exact keptApart_of_far far
  · rw [← sort_ofInt64]
    rfl

theorem integers_exact_below : (-3 : Int64).toInt.natAbs < Nat.pow 2 53 ∧
    (ofInt64 (-3)).StandsTo (ofInt64 5) .lt ∧
    Comparison.lte.holds (ofInt64 (-3)) (ofInt64 5) = true := by
  obtain ⟨-, agrees, -, kept, -⟩ := integers_exact_iff (-3) 5 [] [] .none
  have small : (-3 : Int64).toInt.natAbs < Nat.pow 2 53 := by decide
  have stands := agrees.2 (kept (.inl small))
  exact ⟨small, stands, stands.compared .lte (by decide)⟩

/-- Above `2 ^ 53` the odd integers are lost: this one is equal to the next lower one in a
comparison, though not as a value, and sorting does not put it after that. -/
theorem odd_integer_equal_below :
    Comparison.eq.holds (ofInt64 9007199254740993) (ofInt64 9007199254740992) = true ∧
    Comparison.gt.holds (ofInt64 9007199254740993) (ofInt64 9007199254740992) = false ∧
    (ofInt64 9007199254740993).same (ofInt64 9007199254740992) = false ∧
    sort [ofInt64 9007199254740993, ofInt64 9007199254740992] =
      [ofInt64 9007199254740993, ofInt64 9007199254740992] := by
  have alike : roundedInt64 9007199254740993 = roundedInt64 9007199254740992 := by decide +kernel
  have stands := standsTo_ofInt64 9007199254740993 9007199254740992
  rw [compare_eq_iff_eq.2 alike] at stands
  refine ⟨stands.compared .eq (by decide), stands.compared .gt (by decide), ?_, ?_⟩
  · rw [ofInt64, ofInt64, same]
    decide
  · refine List.mergeSort_of_pairwise (List.pairwise_pair.2 ?_)
    rw [stands.sorted]
    rfl

end Value
end TitleTemplate
