import Mathlib.Data.List.Forall2
import TitleTemplate.Proofs.Number.Order
import TitleTemplate.Value.Order

/-!
Equality of values. Two values are equal when they have the same shape and what stands at the same
place of it is equal. So equality is symmetric, and a value is equal to itself unless it holds NaN.
It is not transitive: an integer is compared exactly with an integer but, as what it is rounded to,
with a floating-point number, which may so be equal to two integers. These are all the exceptions.
-/
namespace TitleTemplate.Value

mutual

/-- What is in a value and has no parts of its own, in order. -/
def leaves : Value → List Value
  | .seq items => leavesOfItems items
  | .map entries => leavesOfEntries entries
  | v => [v]

def leavesOfItems : List Value → List Value
  | [] => []
  | v :: vs => v.leaves ++ leavesOfItems vs

def leavesOfEntries : List (String × Value) → List Value
  | [] => []
  | (_, v) :: es => v.leaves ++ leavesOfEntries es

end

def isLeaf : Value → Bool
  | .seq _ | .map _ => false
  | _ => true

mutual

theorem isLeaf_of_mem : ∀ v : Value, ∀ x ∈ v.leaves, x.isLeaf = true
  | .undefined, _, member | .none, _, member | .bool _, _, member | .int _, _, member
  | .float _, _, member | .str _, _, member => List.mem_singleton.1 member ▸ rfl
  | .seq items, x, member => isLeaf_of_mem_items items x member
  | .map entries, x, member => isLeaf_of_mem_entries entries x member

theorem isLeaf_of_mem_items : ∀ items : List Value, ∀ x ∈ leavesOfItems items, x.isLeaf = true
  | v :: vs, x, member => (List.mem_append.1 member).elim (isLeaf_of_mem v x)
      (isLeaf_of_mem_items vs x)

theorem isLeaf_of_mem_entries : ∀ entries : List (String × Value),
    ∀ x ∈ leavesOfEntries entries, x.isLeaf = true
  | (_, v) :: es, x, member => (List.mem_append.1 member).elim (isLeaf_of_mem v x)
      (isLeaf_of_mem_entries es x)

end

mutual

/-- The shape of a value: its sequences and maps, with none in the place of every leaf. -/
def outline : Value → Value
  | .seq items => .seq (outlineOfItems items)
  | .map entries => .map (outlineOfEntries entries)
  | _ => .none

def outlineOfItems : List Value → List Value
  | [] => []
  | v :: vs => v.outline :: outlineOfItems vs

def outlineOfEntries : List (String × Value) → List (String × Value)
  | [] => []
  | (k, v) :: es => (k, v.outline) :: outlineOfEntries es

end

mutual

theorem length_leaves_outline : ∀ v : Value, v.outline.leaves.length = v.leaves.length
  | .undefined | .none | .bool _ | .int _ | .float _ | .str _ => rfl
  | .seq items => length_leavesOfItems_outline items
  | .map entries => length_leavesOfEntries_outline entries

theorem length_leavesOfItems_outline : ∀ items : List Value,
    (leavesOfItems (outlineOfItems items)).length = (leavesOfItems items).length
  | [] => rfl
  | v :: vs => by
    rw [outlineOfItems, leavesOfItems, leavesOfItems, List.length_append, List.length_append,
      length_leaves_outline v, length_leavesOfItems_outline vs]

theorem length_leavesOfEntries_outline : ∀ entries : List (String × Value),
    (leavesOfEntries (outlineOfEntries entries)).length = (leavesOfEntries entries).length
  | [] => rfl
  | (k, v) :: es => by
    rw [outlineOfEntries, leavesOfEntries, leavesOfEntries, List.length_append,
      List.length_append, length_leaves_outline v, length_leavesOfEntries_outline es]

end

theorem length_leaves_of_outline {v w : Value} (alike : v.outline = w.outline) :
    v.leaves.length = w.leaves.length := by
  rw [← length_leaves_outline v, alike, length_leaves_outline]

theorem forall₂_append_iff {α β : Type} {R : α → β → Prop} {as cs : List α} {bs ds : List β}
    (lengths : as.length = bs.length) :
    List.Forall₂ R (as ++ cs) (bs ++ ds) ↔ List.Forall₂ R as bs ∧ List.Forall₂ R cs ds := by
  constructor
  · intro all
    have first := List.forall₂_take_append _ _ _ all
    have later := List.forall₂_drop_append _ _ _ all
    rw [← lengths, List.take_left] at first
    rw [← lengths, List.drop_left] at later
    exact ⟨first, later⟩
  · rintro ⟨first, later⟩
    exact List.rel_append first later

def SameLeaf (v w : Value) : Prop := v.isLeaf = true ∧ w.isLeaf = true ∧ v.same w = true

mutual

theorem same_iff : ∀ v w : Value,
    v.same w = true ↔ v.outline = w.outline ∧ List.Forall₂ SameLeaf v.leaves w.leaves
  | .seq a, w => by
    cases w with
    | seq b => rw [same, sameItems_iff a b, outline, outline, leaves, leaves, seq.injEq]
    | _ => simp [same, outline]
  | .map a, w => by
    cases w with
    | map b => rw [same, sameEntries_iff a b, outline, outline, leaves, leaves, map.injEq]
    | _ => simp [same, outline]
  | .undefined, w | .none, w | .bool _, w | .int _, w | .float _, w | .str _, w => by
    cases w with
    | seq b | map b => simp [same, outline]
    | _ => simp [outline, leaves, SameLeaf, isLeaf]

theorem sameItems_iff : ∀ a b : List Value,
    sameItems a b = true ↔ outlineOfItems a = outlineOfItems b ∧
      List.Forall₂ SameLeaf (leavesOfItems a) (leavesOfItems b)
  | [], [] => by simp [sameItems, leavesOfItems]
  | [], _ :: _ | _ :: _, [] => by simp [sameItems, outlineOfItems]
  | v :: vs, w :: ws => by
    rw [sameItems, Bool.and_eq_true, same_iff v w, sameItems_iff vs ws, outlineOfItems,
      outlineOfItems, leavesOfItems, leavesOfItems, List.cons.injEq, and_and_and_comm]
    refine and_congr_right fun alike => ?_
    rw [forall₂_append_iff (length_leaves_of_outline alike.1)]

theorem sameEntries_iff : ∀ a b : List (String × Value),
    sameEntries a b = true ↔ outlineOfEntries a = outlineOfEntries b ∧
      List.Forall₂ SameLeaf (leavesOfEntries a) (leavesOfEntries b)
  | [], [] => by simp [sameEntries, leavesOfEntries]
  | [], _ :: _ | _ :: _, [] => by simp [sameEntries, outlineOfEntries]
  | (k, v) :: es, (l, w) :: fs => by
    rw [sameEntries, Bool.and_eq_true, Bool.and_eq_true, beq_iff_eq, same_iff v w, ← and_assoc,
      sameEntries_iff es fs, outlineOfEntries, outlineOfEntries, leavesOfEntries, leavesOfEntries,
      List.cons.injEq, Prod.mk.injEq, and_and_and_comm]
    refine and_congr_right fun alike => ?_
    rw [forall₂_append_iff (length_leaves_of_outline alike.1.2)]

end

/-! Equality of leaves. -/

def place? : Value → Option (WithBotTop ℚ)
  | .int n => (Binary64.ofInt n).place?
  | .float x => x.place?
  | _ => Option.none

/-- If both are integers they are the same one. -/
def IntegersAgree (v w : Value) : Prop := ∀ m n, v = .int m → w = .int n → m = n

theorem same_of_number {v : Value} (number : v.isNumber = true) (w : Value) :
    v.same w = true ↔
      (∃ p, v.place? = some p ∧ w.place? = some p) ∧ v.IntegersAgree w := by
  cases v with
  | int m =>
    cases w with
    | int n =>
      have placed : (Binary64.ofInt m).place? ≠ Option.none :=
        (Binary64.place_eq_none_iff _).not.2 (Binary64.ofInt_ne_nan m)
      obtain ⟨p, atM⟩ := Option.ne_none_iff_exists'.1 placed
      simp only [same, beq_iff_eq, IntegersAgree, place?, int.injEq]
      constructor
      · rintro rfl
        exact ⟨⟨p, atM, atM⟩, fun _ _ here there => here.symm.trans there⟩
      · intro agree
        exact agree.2 m n rfl rfl
    | float y => simp [same, Binary64.equal_iff, place?, IntegersAgree]
    | _ => simp [same, place?]
  | float x =>
    cases w with
    | int n => simp [same, Binary64.equal_iff, place?, IntegersAgree]
    | float y => simp [same, Binary64.equal_iff, place?, IntegersAgree]
    | _ => simp [same, place?]
  | _ => cases number

theorem same_of_plain {v : Value} (leaf : v.isLeaf = true) (plain : v.isNumber = false)
    (w : Value) : v.same w = true ↔ v = w := by
  cases v <;> cases w <;> simp_all [same, isLeaf, isNumber]

theorem isNumber_of_place {v : Value} {p : WithBotTop ℚ} (placed : v.place? = some p) :
    v.isNumber = true := by
  cases v with
  | int n | float x => rfl
  | _ => cases placed

theorem IntegersAgree.symm {v w : Value} (agree : v.IntegersAgree w) : w.IntegersAgree v :=
  fun m n here there => (agree n m there here).symm

theorem same_leaf_iff {v : Value} (leaf : v.isLeaf = true) (w : Value) :
    v.same w = true ↔
      (∃ p, v.place? = some p ∧ w.place? = some p) ∧ v.IntegersAgree w ∨
        v.isNumber = false ∧ v = w := by
  cases number : v.isNumber with
  | true => simp [same_of_number number]
  | false =>
    rw [same_of_plain leaf number, or_iff_right, and_iff_right rfl]
    rintro ⟨⟨p, placed, -⟩, -⟩
    rw [isNumber_of_place placed] at number
    cases number

theorem same_comm_of_leaf {v w : Value} (leaf : v.isLeaf = true) (leaf' : w.isLeaf = true) :
    v.same w = w.same v := by
  have swap {v w : Value} (leaf : v.isLeaf = true) (leaf' : w.isLeaf = true)
      (equal : v.same w = true) : w.same v = true := by
    rw [same_leaf_iff leaf] at equal
    rw [same_leaf_iff leaf']
    rcases equal with ⟨⟨p, atV, atW⟩, agree⟩ | ⟨plain, rfl⟩
    · exact .inl ⟨⟨p, atW, atV⟩, agree.symm⟩
    · exact .inr ⟨plain, rfl⟩
  rw [Bool.eq_iff_iff]
  exact ⟨swap leaf leaf', swap leaf' leaf⟩

theorem same_self_of_leaf {v : Value} (leaf : v.isLeaf = true) :
    v.same v = true ↔ v ≠ .float .nan := by
  cases v <;> simp_all [same, isLeaf, Binary64.equal_self_iff]

theorem same_trans_of_leaf {a b c : Value} (leaf : a.isLeaf = true) (first : a.same b = true)
    (second : b.same c = true) : a.same c = true ↔ a.IntegersAgree c := by
  cases number : a.isNumber with
  | false =>
    have same := (same_of_plain leaf number b).1 first
    subst same
    refine iff_of_true second ?_
    rintro m n rfl
    cases number
  | true =>
    obtain ⟨⟨p, atA, atB⟩, -⟩ := (same_of_number number b).1 first
    obtain ⟨⟨q, atB', atC⟩, -⟩ := (same_of_number (isNumber_of_place atB) c).1 second
    rw [atB, Option.some_inj] at atB'
    subst atB'
    rw [same_of_number number]
    exact and_iff_right ⟨p, atA, atC⟩

theorem sameLeaf_comm {v w : Value} : SameLeaf v w ↔ SameLeaf w v := by
  rw [SameLeaf, SameLeaf, and_left_comm]
  refine and_congr_right fun leaf' => and_congr_right fun leaf => ?_
  rw [same_comm_of_leaf leaf leaf']

theorem sameLeaf_trans {a b c : Value} (first : SameLeaf a b) (second : SameLeaf b c) :
    SameLeaf a c ↔ a.IntegersAgree c := by
  rw [SameLeaf, and_iff_right first.1, and_iff_right second.2.1,
    same_trans_of_leaf first.1 first.2.2 second.2.2]

/-! Equality of values. -/

theorem same_comm (v w : Value) : v.same w = w.same v := by
  rw [Bool.eq_iff_iff, same_iff, same_iff, eq_comm]
  refine and_congr_right fun _ => ⟨fun all => ?_, fun all => ?_⟩
  · exact (all.imp fun _ _ => sameLeaf_comm.1).flip
  · exact (all.imp fun _ _ => sameLeaf_comm.1).flip

theorem same_self_iff (v : Value) : v.same v = true ↔ .float .nan ∉ v.leaves := by
  rw [same_iff, and_iff_right rfl, List.forall₂_same]
  constructor
  · intro all member
    exact (same_self_of_leaf rfl).1 (all _ member).2.2 rfl
  · intro noNaN x member
    have leaf := isLeaf_of_mem v x member
    refine ⟨leaf, leaf, (same_self_of_leaf leaf).2 ?_⟩
    rintro rfl
    exact noNaN member

theorem forall₂_compose {α : Type} {R S T : α → α → Prop} {as bs cs : List α}
    (step : ∀ a ∈ as, ∀ b ∈ bs, ∀ c ∈ cs, R a b → S b c → T a c)
    (first : List.Forall₂ R as bs) (second : List.Forall₂ S bs cs) : List.Forall₂ T as cs := by
  induction first generalizing cs with
  | nil =>
    cases second
    exact List.Forall₂.nil
  | cons related rest ih =>
    cases second with
    | cons related' rest' =>
      refine List.Forall₂.cons ?_ (ih (fun a inA b inB c inC => ?_) rest')
      · exact step _ List.mem_cons_self _ List.mem_cons_self _ List.mem_cons_self related related'
      · exact step a (List.mem_cons_of_mem _ inA) b (List.mem_cons_of_mem _ inB) c
          (List.mem_cons_of_mem _ inC)

theorem same_trans_iff {a b c : Value} (first : a.same b = true) (second : b.same c = true) :
    a.same c = true ↔ List.Forall₂ IntegersAgree a.leaves c.leaves := by
  obtain ⟨alike, same⟩ := (same_iff a b).1 first
  obtain ⟨alike', same'⟩ := (same_iff b c).1 second
  have related : List.Forall₂ (fun x z => SameLeaf x z ↔ x.IntegersAgree z) a.leaves c.leaves :=
    forall₂_compose (R := SameLeaf) (S := SameLeaf) (fun _ _ _ _ _ _ => sameLeaf_trans) same same'
  rw [same_iff, and_iff_right (alike.trans alike')]
  constructor <;> intro all
  · exact List.Forall₂.mp (fun _ _ => Iff.mp) related all
  · exact List.Forall₂.mp (fun _ _ => Iff.mpr) related all

theorem rounded_eq_of_place {m n : Int} (small : m.natAbs < Nat.pow 2 53)
    (small' : n.natAbs < Nat.pow 2 53)
    (placed : (Binary64.ofInt m).place? = (Binary64.ofInt n).place?) : m = n := by
  have within : Nat.pow 2 53 ≤ Nat.pow 2 63 := by decide
  have ordered := Binary64.order_ofInt (small.le.trans within) (small'.le.trans within)
  have equal := (Binary64.equal_self_iff (Binary64.ofInt n)).2 (Binary64.ofInt_ne_nan n)
  rw [Binary64.equal, beq_iff_eq] at equal
  rw [Binary64.order_eq_compare, placed, ← Binary64.order_eq_compare, equal, Option.some_inj,
    eq_comm, compare_eq_iff_eq] at ordered
  exact eq_of_roundedInt_eq small ordered

/-- Two integers equal to one leaf are the same when that is no floating-point number, or when
both are small. -/
theorem integersAgree_of_leaf {a b c : Value} (first : SameLeaf a b) (second : SameLeaf b c)
    (exact : (∀ x, b ≠ .float x) ∨
      ∀ n, a = .int n ∨ c = .int n → n.natAbs < Nat.pow 2 53) : a.IntegersAgree c := by
  rintro m n rfl rfl
  obtain ⟨⟨p, atM, atB⟩, agree⟩ := (same_of_number rfl b).1 first.2.2
  obtain ⟨⟨q, atB', atN⟩, agree'⟩ := (same_of_number (isNumber_of_place atB) (.int n)).1 second.2.2
  rcases exact with whole | small
  · cases b with
    | int k => exact (agree m k rfl rfl).trans (agree' k n rfl rfl)
    | float x => exact absurd rfl (whole x)
    | _ => cases atB
  · refine rounded_eq_of_place (small m (.inl rfl)) (small n (.inr rfl)) ?_
    exact atM.trans ((atB.symm.trans atB').trans atN.symm)

/-- Equality is symmetric, and only what holds NaN is not equal to itself. Two values that are equal
to a third are equal unless they hold different integers at one place, where the third then holds the
floating-point number that both are rounded to. This takes an integer of at least `2 ^ 53`. -/
theorem equality_transitive_iff (a b c : Value) :
    a.same b = b.same a ∧
    (a.same a = true ↔ .float .nan ∉ a.leaves) ∧
    (a.same b = true → b.same c = true →
      (a.same c = true ↔
        ∀ m n, (.int m, .int n) ∈ a.leaves.zip c.leaves → m = n) ∧
      ((∀ x, .float x ∉ b.leaves) ∨
        (∀ n, .int n ∈ a.leaves ++ c.leaves → n.natAbs < Nat.pow 2 53) → a.same c = true)) := by
  refine ⟨same_comm a b, same_self_iff a, fun first second => ⟨?_, fun exact => ?_⟩⟩
  · rw [same_trans_iff first second, List.forall₂_iff_zip]
    obtain ⟨alike, -⟩ := (same_iff a b).1 first
    obtain ⟨alike', -⟩ := (same_iff b c).1 second
    rw [and_iff_right (length_leaves_of_outline (alike.trans alike'))]
    constructor
    · intro all m n member
      exact all member m n rfl rfl
    · rintro all x z member m n rfl rfl
      exact all m n member
  · rw [same_trans_iff first second]
    refine forall₂_compose (fun x inA y inB z inC related related' => ?_)
      ((same_iff a b).1 first).2 ((same_iff b c).1 second).2
    refine integersAgree_of_leaf related related' (exact.imp ?_ ?_)
    · rintro whole x rfl
      exact whole x inB
    · rintro small n (rfl | rfl)
      · exact small n (List.mem_append_left _ inA)
      · exact small n (List.mem_append_right _ inC)

/-- The two zeros are equal, as both are equal to the integer, here within a map in a sequence. -/
theorem equality_transitive_zeros :
    let wrap (v : Value) : Value := .seq [.map [("n", v)], .str "x"]
    let a := wrap (.float (Binary64.zero true))
    let b := wrap (.int 0)
    let c := wrap (.float (Binary64.zero false))
    a.same b = true ∧ b.same c = true ∧ a.same c = true ∧ c.same a = true := by
  intro wrap a b c
  have first : a.same b = true := by decide +kernel
  have second : b.same c = true := by decide +kernel
  obtain ⟨-, -, transitive⟩ := equality_transitive_iff a b c
  have third : a.same c = true := (transitive first second).2 (.inl fun x member => by
    simp [b, wrap, leaves, leavesOfItems, leavesOfEntries] at member)
  exact ⟨first, second, third, (equality_transitive_iff c a b).1.trans third⟩

/-- Above `2 ^ 53` a number is equal to two integers that are not equal. -/
theorem number_equal_to_two_integers :
    let number : Value := .float (Binary64.ofInt 9007199254740992)
    (Value.int 9007199254740993).same number = true ∧
      number.same (.int 9007199254740992) = true ∧
      (Value.int 9007199254740993).same (.int 9007199254740992) = false := by
  decide +kernel

end TitleTemplate.Value
