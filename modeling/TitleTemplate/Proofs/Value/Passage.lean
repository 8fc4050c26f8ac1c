import TitleTemplate.Proofs.Value.Entries
import TitleTemplate.Value.Keyed

/-!
The passage of values through JSON. What JSON has no form for becomes none wherever it stands, and
all else stays as it is; so a second passage changes nothing. It does not matter either whether a
document is read as it stands or by way of its tree, in which every key is there once.
-/
namespace TitleTemplate

namespace Value

mutual

/-- Whether a value is one that can be made: integers are below `2 ^ 63`, and the keys of maps
ascend. -/
def isMade : Value → Bool
  | .int n => n < Nat.pow 2 63
  | .seq items => areMade items
  | .map entries => decide (Entries.Ascending entries) && entriesMade entries
  | _ => true

def areMade : List Value → Bool
  | [] => true
  | v :: vs => v.isMade && areMade vs

def entriesMade : List (String × Value) → Bool
  | [] => true
  | (_, v) :: es => v.isMade && entriesMade es

end

mutual

/-- The value with none in the place of everything that JSON has no form for: what is undefined, NaN
and the infinities. -/
def expressible : Value → Value
  | .undefined => .none
  | .float x => if x.isFinite then .float x else .none
  | .seq items => .seq (expressibleItems items)
  | .map entries => .map (expressibleEntries entries)
  | v => v

def expressibleItems : List Value → List Value
  | [] => []
  | v :: vs => v.expressible :: expressibleItems vs

def expressibleEntries : List (String × Value) → List (String × Value)
  | [] => []
  | (k, v) :: es => (k, v.expressible) :: expressibleEntries es

end

theorem entriesMade_iff {entries : List (String × Value)} :
    entriesMade entries = true ↔ ∀ e ∈ entries, e.2.isMade = true := by
  induction entries with
  | nil => simp [entriesMade]
  | cons e es ih => rw [entriesMade, Bool.and_eq_true, ih, List.forall_mem_cons]

theorem expressibleEntries_eq (entries : List (String × Value)) :
    expressibleEntries entries = Entries.mapValues expressible entries := by
  induction entries with
  | nil => rfl
  | cons e es ih => rw [expressibleEntries, ih, Entries.mapValues, Entries.mapValues, List.map_cons]

theorem toJsonEntries_eq (entries : List (String × Value)) :
    toJsonEntries entries = Entries.mapValues toJson entries := by
  induction entries with
  | nil => rfl
  | cons e es ih => rw [toJsonEntries, ih, Entries.mapValues, Entries.mapValues, List.map_cons]

mutual

theorem expressible_expressible : ∀ v : Value, v.expressible.expressible = v.expressible
  | .undefined | .none | .bool _ | .int _ | .str _ => rfl
  | .float x => by
    rw [expressible]
    split
    · rename_i finite
      rw [expressible, if_pos finite]
    · rfl
  | .seq items => by rw [expressible, expressible, expressibleItems_again items]
  | .map entries => by rw [expressible, expressible, expressibleEntries_again entries]

theorem expressibleItems_again : ∀ items : List Value,
    expressibleItems (expressibleItems items) = expressibleItems items
  | [] => rfl
  | v :: vs => by
    rw [expressibleItems, expressibleItems, expressible_expressible v, expressibleItems_again vs]

theorem expressibleEntries_again : ∀ entries : List (String × Value),
    expressibleEntries (expressibleEntries entries) = expressibleEntries entries
  | [] => rfl
  | (k, v) :: es => by
    rw [expressibleEntries, expressibleEntries, expressible_expressible v,
      expressibleEntries_again es]

end

mutual

theorem expressible_isMade : ∀ v : Value, v.isMade = true → v.expressible.isMade = true
  | .undefined, _ | .none, _ | .bool _, _ | .str _, _ => rfl
  | .int n, made => made
  | .float x, _ => by
    rw [expressible]
    split <;> rfl
  | .seq items, made => expressibleItems_areMade items made
  | .map entries, made => by
    obtain ⟨ascending, inside⟩ := Bool.and_eq_true_iff.1 made
    rw [expressible, isMade, expressibleEntries_eq, Bool.and_eq_true, decide_eq_true_iff,
      Entries.mapValues_ascending, ← expressibleEntries_eq]
    exact ⟨of_decide_eq_true ascending, expressibleEntries_made entries inside⟩

theorem expressibleItems_areMade : ∀ items : List Value, areMade items = true →
    areMade (expressibleItems items) = true
  | [], _ => rfl
  | v :: vs, made => by
    obtain ⟨first, later⟩ := Bool.and_eq_true_iff.1 made
    exact Bool.and_eq_true_iff.2 ⟨expressible_isMade v first, expressibleItems_areMade vs later⟩

theorem expressibleEntries_made : ∀ entries : List (String × Value), entriesMade entries = true →
    entriesMade (expressibleEntries entries) = true
  | [], _ => rfl
  | (_, v) :: es, made => by
    obtain ⟨first, later⟩ := Bool.and_eq_true_iff.1 made
    exact Bool.and_eq_true_iff.2 ⟨expressible_isMade v first, expressibleEntries_made es later⟩

end

mutual

theorem throughJson_of_made : ∀ v : Value, v.isMade = true → v.throughJson = v.expressible
  | .undefined, _ | .none, _ | .bool _, _ | .str _, _ => rfl
  | .int n, made => by
    have small : n < Nat.pow 2 63 := of_decide_eq_true made
    simp only [throughJson, toJson, Json.toValue, Json.Number.toValue, Json.Number.signed?,
      if_pos small, expressible]
  | .float x, _ => by
    rw [throughJson, toJson, Json.ofFloat, expressible]
    split <;> rfl
  | .seq items, made => by
    rw [throughJson, toJson, Json.toValue, expressible, itemsThroughJson_of_made items made]
  | .map entries, made => by
    have inside := (Bool.and_eq_true_iff.1 made).2
    rw [throughJson, toJson, Json.toValue, expressible, entriesThroughJson_of_made entries inside]

theorem itemsThroughJson_of_made : ∀ items : List Value, areMade items = true →
    Json.toValueItems (toJsonItems items) = expressibleItems items
  | [], _ => rfl
  | v :: vs, made => by
    obtain ⟨first, later⟩ := Bool.and_eq_true_iff.1 made
    have here := throughJson_of_made v first
    rw [throughJson] at here
    rw [toJsonItems, Json.toValueItems, expressibleItems, here, itemsThroughJson_of_made vs later]

theorem entriesThroughJson_of_made : ∀ entries : List (String × Value),
    entriesMade entries = true →
    Json.toValueEntries (toJsonEntries entries) = expressibleEntries entries
  | [], _ => rfl
  | (k, v) :: es, made => by
    obtain ⟨first, later⟩ := Bool.and_eq_true_iff.1 made
    have here := throughJson_of_made v first
    rw [throughJson] at here
    rw [toJsonEntries, Json.toValueEntries, expressibleEntries, here,
      entriesThroughJson_of_made es later]

end

mutual

theorem tree_toJson : ∀ v : Value, v.isMade = true → v.toJson.tree = v.toJson
  | .undefined, _ | .none, _ | .bool _, _ | .int _, _ | .str _, _ => rfl
  | .float x, _ => by
    rw [toJson, Json.ofFloat]
    split <;> rfl
  | .seq items, made => by rw [toJson, Json.tree, treeItems_toJson items made]
  | .map entries, made => by
    obtain ⟨ascending, inside⟩ := Bool.and_eq_true_iff.1 made
    rw [toJson, Json.tree, treeEntries_toJson entries inside, Entries.ofList_of_ascending]
    rw [toJsonEntries_eq, Entries.mapValues_ascending]
    exact of_decide_eq_true ascending

theorem treeItems_toJson : ∀ items : List Value, areMade items = true →
    Json.treeItems (toJsonItems items) = toJsonItems items
  | [], _ => rfl
  | v :: vs, made => by
    obtain ⟨first, later⟩ := Bool.and_eq_true_iff.1 made
    rw [toJsonItems, Json.treeItems, tree_toJson v first, treeItems_toJson vs later]

theorem treeEntries_toJson : ∀ entries : List (String × Value), entriesMade entries = true →
    Json.treeEntries (toJsonEntries entries) = toJsonEntries entries
  | [], _ => rfl
  | (k, v) :: es, made => by
    obtain ⟨first, later⟩ := Bool.and_eq_true_iff.1 made
    rw [toJsonEntries, Json.treeEntries, tree_toJson v first, treeEntries_toJson es later]

end

end Value

namespace Json

theorem toValueEntries_eq (entries : List (String × Json)) :
    toValueEntries entries = Entries.mapValues toValue entries := by
  induction entries with
  | nil => rfl
  | cons e es ih => rw [toValueEntries, ih, Entries.mapValues, Entries.mapValues, List.map_cons]

/-- An integer has a sign, or fits without one, or is read from both forms alike. -/
theorem Number.read_eq_toValue (n : Number) : n.read = n.toValue := by
  cases n with
  | real x => rfl
  | integer n =>
    rw [Number.read, Number.toValue, Number.signed?, Number.unsigned?]
    by_cases small : n < Nat.pow 2 63
    · rw [if_pos small]
      split
      · rfl
      · rename_i positive
        have same : ((n.toNat : Nat) : Int) = n := Int.toNat_of_nonneg (not_lt.1 positive)
        rw [Value.ofNat, same, Value.ofInt, if_pos small]
    · have positive : 0 ≤ n := (Int.natCast_nonneg _).trans (not_lt.1 small)
      rw [if_neg small, if_pos positive, if_neg (not_lt.2 positive)]

mutual

theorem read_eq_toValue_tree : ∀ j : Json, j.read = j.tree.toValue
  | .null | .bool _ | .str _ => rfl
  | .number n => n.read_eq_toValue
  | .array items => by rw [read, tree, toValue, readItems_eq_toValue_tree items]
  | .object entries => by
    rw [read, tree, toValue, toValueEntries_eq, ← Entries.ofList_mapValues, ← toValueEntries_eq,
      readEntries_eq_toValue_tree entries]

theorem readItems_eq_toValue_tree : ∀ items : List Json,
    readItems items = toValueItems (treeItems items)
  | [] => rfl
  | j :: js => by
    rw [readItems, treeItems, toValueItems, read_eq_toValue_tree j, readItems_eq_toValue_tree js]

theorem readEntries_eq_toValue_tree : ∀ entries : List (String × Json),
    readEntries entries = toValueEntries (treeEntries entries)
  | [] => rfl
  | (k, j) :: es => by
    rw [readEntries, treeEntries, toValueEntries, read_eq_toValue_tree j,
      readEntries_eq_toValue_tree es]

end

theorem Number.read_isMade (n : Number) : n.read.isMade = true := by
  cases n with
  | real x => rfl
  | integer n =>
    rw [Number.read]
    split
    · rename_i negative
      rw [Value.isMade, decide_eq_true_iff]
      exact negative.trans_le (Int.natCast_nonneg _)
    · rw [Value.ofNat, Value.ofInt]
      split
      · rename_i small
        rwa [Value.isMade, decide_eq_true_iff]
      · rfl

theorem entriesMade_ofList {entries : List (String × Value)}
    (made : Value.entriesMade entries = true) :
    Value.entriesMade (Entries.ofList entries) = true := by
  rw [Value.entriesMade_iff] at made ⊢
  exact fun e member => made e (Entries.mem_of_mem_ofList member)

mutual

theorem read_isMade : ∀ j : Json, j.read.isMade = true
  | .null | .bool _ | .str _ => rfl
  | .number n => n.read_isMade
  | .array items => readItems_areMade items
  | .object entries =>
    Bool.and_eq_true_iff.2 ⟨decide_eq_true (Entries.ofList_ascending _),
      entriesMade_ofList (readEntries_made entries)⟩

theorem readItems_areMade : ∀ items : List Json, Value.areMade (readItems items) = true
  | [] => rfl
  | j :: js => Bool.and_eq_true_iff.2 ⟨read_isMade j, readItems_areMade js⟩

theorem readEntries_made : ∀ entries : List (String × Json),
    Value.entriesMade (readEntries entries) = true
  | [] => rfl
  | (_, j) :: es => Bool.and_eq_true_iff.2 ⟨read_isMade j, readEntries_made es⟩

end

end Json

/-- A passage through JSON puts none in the place of what JSON lacks and changes nothing else, so
that a second one changes nothing at all; reading the document that a value is written as does the
same. Every document is read as the value of its tree, and that value is one that can be made. -/
theorem passage_through_json :
    (∀ v : Value, v.isMade = true →
      v.throughJson = v.expressible ∧ v.throughJson.throughJson = v.throughJson ∧
        v.toJson.tree = v.toJson ∧ v.toJson.read = v.throughJson) ∧
    ∀ j : Json, j.read = j.tree.toValue ∧ j.read.isMade = true := by
  refine ⟨fun v made => ?_, fun j => ⟨Json.read_eq_toValue_tree j, Json.read_isMade j⟩⟩
  have once := Value.throughJson_of_made v made
  have again := Value.throughJson_of_made _ (Value.expressible_isMade v made)
  have tree := Value.tree_toJson v made
  refine ⟨once, ?_, tree, ?_⟩
  · rw [once, again, Value.expressible_expressible]
  · rw [Json.read_eq_toValue_tree, tree]
    rfl

theorem passage_through_json_nested :
    let v : Value := .map [("a", .seq [.undefined, .float .nan, .int (-4)]),
      ("b", .map [("c", .float (.infinite true)), ("d", .str "x")])]
    v.isMade = true ∧ v.throughJson = v.expressible ∧
      v.throughJson = .map [("a", .seq [.none, .none, .int (-4)]),
        ("b", .map [("c", .none), ("d", .str "x")])] :=
  ⟨by decide, (passage_through_json.1 _ (by decide)).1,
    (passage_through_json.1 _ (by decide)).1.trans (by rfl)⟩

end TitleTemplate
