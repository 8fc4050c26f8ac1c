import TitleTemplate.Modifier.Numbers
import TitleTemplate.Template.Render
import TitleTemplate.Value.Keyed
import TitleTemplate.Value.Order

/-!
What is absent and what is null. A value in which everything undefined has become none has the same
text, the same number and the same truth, it is compared and sorted alike, and what is found in it
by a path is what was found before, up to this. A passage through JSON does no more than that to a
value whose numbers JSON can hold.
-/
namespace TitleTemplate.Value

mutual

def definite : Value → Value
  | .undefined => .none
  | .seq items => .seq (definiteItems items)
  | .map entries => .map (definiteEntries entries)
  | v => v

def definiteItems : List Value → List Value
  | [] => []
  | v :: vs => v.definite :: definiteItems vs

def definiteEntries : List (String × Value) → List (String × Value)
  | [] => []
  | (k, v) :: es => (k, v.definite) :: definiteEntries es

end

theorem definiteItems_eq_map (items : List Value) : definiteItems items = items.map definite := by
  induction items with
  | nil => rfl
  | cons v vs ih => rw [definiteItems, ih, List.map_cons]

theorem definiteEntries_length (entries : List (String × Value)) :
    (definiteEntries entries).length = entries.length := by
  induction entries with
  | nil => rfl
  | cons e es ih => rw [definiteEntries, List.length_cons, List.length_cons, ih]

theorem find_definiteEntries (key : String) (entries : List (String × Value)) :
    Entries.find? key (definiteEntries entries) = (Entries.find? key entries).map definite := by
  induction entries with
  | nil => rfl
  | cons e es ih =>
    rw [definiteEntries, Entries.find?, Entries.find?, ih]
    split <;> rfl

mutual

@[simp] theorem definite_definite : ∀ v : Value, v.definite.definite = v.definite
  | .undefined | .none | .bool _ | .int _ | .float _ | .str _ => rfl
  | .seq items => by rw [definite, definite, definiteItems_definiteItems items]
  | .map entries => by rw [definite, definite, definiteEntries_definiteEntries entries]

theorem definiteItems_definiteItems : ∀ items : List Value,
    definiteItems (definiteItems items) = definiteItems items
  | [] => rfl
  | v :: vs => by
    rw [definiteItems, definiteItems, definite_definite v, definiteItems_definiteItems vs]

theorem definiteEntries_definiteEntries : ∀ entries : List (String × Value),
    definiteEntries (definiteEntries entries) = definiteEntries entries
  | [] => rfl
  | (k, v) :: es => by
    rw [definiteEntries, definiteEntries, definite_definite v, definiteEntries_definiteEntries es]

end

/-! What is asked of a value by itself. -/

@[simp] theorem display_definite (v : Value) : v.definite.display = v.display := by
  cases v <;> rfl

@[simp] theorem number_definite (v : Value) : v.definite.number? = v.number? := by
  cases v <;> rfl

@[simp] theorem integer_definite (v : Value) : v.definite.integer? = v.integer? := by
  cases v <;> rfl

@[simp] theorem isNumber_definite (v : Value) : v.definite.isNumber = v.isNumber := by
  cases v <;> rfl

@[simp] theorem scalarText_definite (v : Value) : v.definite.scalarText? = v.scalarText? := by
  cases v <;> rfl

@[simp] theorem items_definite (v : Value) :
    v.definite.items? = v.items?.map (List.map definite) := by
  cases v with
  | seq items => exact congrArg some (definiteItems_eq_map items)
  | _ => rfl

@[simp] theorem length_definite (v : Value) : v.definite.length? = v.length? := by
  cases v with
  | seq items => simp [definite, length?, definiteItems_eq_map]
  | map entries => simp [definite, length?, definiteEntries_length]
  | _ => rfl

@[simp] theorem isTruthy_definite (v : Value) : v.definite.isTruthy = v.isTruthy := by
  cases v with
  | seq items => cases items <;> rfl
  | map entries => cases entries <;> rfl
  | _ => rfl

@[simp] theorem thousandsText_definite (v : Value) :
    thousandsText v.definite = thousandsText v := by
  simp [thousandsText]

/-! Order and comparison. -/

theorem sortOrder_definite (v w : Value) : v.definite.sortOrder w.definite = v.sortOrder w := by
  simp [sortOrder, sortKey]

theorem sort_definite (items : List Value) :
    sort (items.map definite) = (sort items).map definite := by
  refine (List.map_mergeSort fun v _ w _ => ?_).symm
  rw [sortOrder_definite]

theorem holds_definite (op : Comparison) (v literal : Value) :
    op.holds v.definite literal = op.holds v literal := by
  have equal : matchesLiteral v.definite literal = matchesLiteral v literal := by
    cases v <;> rfl
  have ordered : ∀ test, orderedBy test v.definite literal = orderedBy test v literal := by
    simp [orderedBy]
  have contained : containsLiteral v.definite literal = containsLiteral v literal := by
    cases v with
    | seq items => simp [definite, containsLiteral, definiteItems_eq_map, Function.comp_def]
    | _ => rfl
  cases op <;> simp only [Comparison.holds, equal, ordered, contained]

/-! Looking something up. -/

theorem getD_definite (o : Option Value) :
    ((o.map definite).getD .undefined).definite = (o.getD .undefined).definite := by
  cases o with
  | none => rfl
  | some v => exact definite_definite v

theorem child_definite (key : String) (v : Value) :
    (v.definite.child key).definite = (v.child key).definite := by
  cases v with
  | seq items =>
    simp only [definite, child, definiteItems_eq_map]
    cases readNatUpTo? (Nat.pow 2 64 - 1) key.toList with
    | none => rfl
    | some n => simp only [Option.bind_some, List.getElem?_map, getD_definite]
  | map entries => simp only [definite, child, find_definiteEntries, getD_definite]
  | _ => rfl

theorem lookup_definite (v : Value) (path : List String) :
    (v.definite.lookup path).definite = (v.lookup path).definite := by
  have alike : ∀ {a b : Value}, a.definite = b.definite →
      (a.lookup path).definite = (b.lookup path).definite := by
    induction path with
    | nil => exact id
    | cons key path ih =>
      intro a b same
      refine @ih (a.child key) (b.child key) ?_
      rw [← child_definite, same, child_definite]
  exact alike (definite_definite v)

/-! The passage through JSON. -/

mutual

/-- Whether JSON gives back every number in a value: finite ones, and integers below `2 ^ 63`, which
are all that `ofInt` makes integers of. -/
def isHeld : Value → Bool
  | .int n => n < Nat.pow 2 63
  | .float x => x.isFinite
  | .seq items => areHeld items
  | .map entries => entriesHeld entries
  | _ => true

def areHeld : List Value → Bool
  | [] => true
  | v :: vs => v.isHeld && areHeld vs

def entriesHeld : List (String × Value) → Bool
  | [] => true
  | (_, v) :: es => v.isHeld && entriesHeld es

end

mutual

theorem throughJson_of_held : ∀ v : Value, v.isHeld = true → v.throughJson = v.definite
  | .undefined, _ | .none, _ | .bool _, _ | .str _, _ => rfl
  | .int n, held => by
    rw [isHeld, decide_eq_true_iff] at held
    simp only [throughJson, toJson, Json.toValue, Json.Number.toValue, Json.Number.signed?,
      if_pos held, definite]
  | .float x, held => by
    rw [isHeld] at held
    simp only [throughJson, toJson, Json.ofFloat, if_pos held, Json.toValue, Json.Number.toValue,
      Json.Number.signed?, Json.Number.unsigned?, Json.Number.nearest, definite]
  | .seq items, held => by
    rw [throughJson, toJson, Json.toValue, definite, itemsThroughJson_of_held items held]
  | .map entries, held => by
    rw [throughJson, toJson, Json.toValue, definite, entriesThroughJson_of_held entries held]

theorem itemsThroughJson_of_held : ∀ items : List Value, areHeld items = true →
    Json.toValueItems (toJsonItems items) = definiteItems items
  | [], _ => rfl
  | v :: vs, held => by
    obtain ⟨first, later⟩ := Bool.and_eq_true_iff.1 held
    have here := throughJson_of_held v first
    rw [throughJson] at here
    rw [toJsonItems, Json.toValueItems, definiteItems, here, itemsThroughJson_of_held vs later]

theorem entriesThroughJson_of_held : ∀ entries : List (String × Value),
    entriesHeld entries = true →
    Json.toValueEntries (toJsonEntries entries) = definiteEntries entries
  | [], _ => rfl
  | (k, v) :: es, held => by
    obtain ⟨first, later⟩ := Bool.and_eq_true_iff.1 held
    have here := throughJson_of_held v first
    rw [throughJson] at here
    rw [toJsonEntries, Json.toValueEntries, definiteEntries, here,
      entriesThroughJson_of_held es later]

end

end TitleTemplate.Value
