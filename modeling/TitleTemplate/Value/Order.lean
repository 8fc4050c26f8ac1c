import TitleTemplate.Value.Basic

/-! Equality of values and the order that sorting uses. -/
namespace TitleTemplate.Value

mutual

/-- Numbers are equal when they stand for the same number, all else when the parts are equal. -/
def same : Value → Value → Bool
  | .undefined, .undefined => true
  | .none, .none => true
  | .bool a, .bool b => a == b
  | .int a, .int b => a == b
  | .float a, .float b => a.equal b
  | .int a, .float b => (Binary64.ofInt a).equal b
  | .float a, .int b => a.equal (Binary64.ofInt b)
  | .str a, .str b => a == b
  | .seq a, .seq b => sameItems a b
  | .map a, .map b => sameEntries a b
  | _, _ => false

def sameItems : List Value → List Value → Bool
  | [], [] => true
  | v :: vs, w :: ws => v.same w && sameItems vs ws
  | _, _ => false

def sameEntries : List (String × Value) → List (String × Value) → Bool
  | [], [] => true
  | (k, v) :: es, (l, w) :: fs => k == l && v.same w && sameEntries es fs
  | _, _ => false

end

/-- The number by which a value is sorted; NaN sorts with zero. -/
def sortKey (v : Value) : Binary64 := v.number?.getD (Binary64.zero false)

/-- Numbers come first, in numeric order; the rest follows in the order of its texts. -/
def sortOrder (v w : Value) : Ordering :=
  match v.isNumber, w.isNumber with
  | true, true => ((v.sortKey).order w.sortKey).getD .eq
  | true, false => .lt
  | false, true => .gt
  | false, false => compare v.display w.display

/-- Ascending, equal items in the order they came in. -/
def sort (items : List Value) : List Value :=
  items.mergeSort (fun v w => v.sortOrder w != .gt)

end TitleTemplate.Value
