import TitleTemplate.Proofs.Modifier.Limits
import TitleTemplate.Proofs.Number.Numerals

/-!
What modifiers are given. Each takes values of one type: numbers and texts that spell them,
sequences, scalars, or sequences and scalars. What is not of that type becomes undefined and stays so
to the end of the chain, with one exception: the length of a map is the number of its entries.
-/
namespace TitleTemplate

/-- The types of values that modifiers take. -/
inductive InputType where
  | number
  | sequence
  | scalarOrSequence
  | scalar
  deriving DecidableEq

def Modifier.input : Modifier → InputType
  | .bytes | .bytes10 | .time | .comma => .number
  | .join | .first | .last | .sort => .sequence
  | .length | .reverse => .scalarOrSequence
  | .upper | .lower | .title | .truncate | .trim | .replace | .escape | .string => .scalar

def Value.IsScalar : Value → Prop
  | .bool _ | .int _ | .float _ | .str _ => True
  | _ => False

def Value.IsSequence : Value → Prop
  | .seq _ => True
  | _ => False

/-- Numbers, and texts that spell one once they are trimmed. -/
def Value.IsNumeric : Value → Prop
  | .int _ | .float _ => True
  | .str s => IsNumeral (trimBlanks s.toList)
  | _ => False

def InputType.Admits : InputType → Value → Prop
  | .number, v => v.IsNumeric
  | .sequence, v => v.IsSequence
  | .scalarOrSequence, v => v.IsScalar ∨ v.IsSequence
  | .scalar, v => v.IsScalar

namespace Value

theorem number_isSome_iff (s : String) :
    (Value.str s).number?.isSome = true ↔ (Value.str s).IsNumeric :=
  Binary64.read_isSome_iff .double (trimBlanks s.toList)

theorem number_of_not_numeric {v : Value} (other : ¬ v.IsNumeric) : v.number? = Option.none := by
  cases v with
  | int _ | float _ => exact absurd trivial other
  | str s => exact Option.not_isSome_iff_eq_none.1 ((number_isSome_iff s).not.2 other)
  | _ => rfl

theorem items_of_not_sequence {v : Value} (other : ¬ v.IsSequence) : v.items? = Option.none := by
  cases v with
  | seq _ => exact absurd trivial other
  | _ => rfl

theorem scalarText_of_not_scalar {v : Value} (other : ¬ v.IsScalar) :
    v.scalarText? = Option.none := by
  cases v with
  | bool _ | int _ | float _ | str _ => exact absurd trivial other
  | _ => rfl

end Value

theorem transform_wrong_type {m : Modifier} {v : Value} (wrong : ¬ m.input.Admits v)
    (other : m ≠ .length) (args : List Value) (limit : Option Nat) :
    (m.transform v args limit).value = none := by
  cases m with
  | bytes | bytes10 | time =>
    rw [Modifier.transform, Value.number_of_not_numeric wrong]
    rfl
  | comma =>
    rw [Modifier.transform, thousandsText, Value.number_of_not_numeric wrong]
    rfl
  | join | first | last | sort =>
    rw [Modifier.transform, Value.items_of_not_sequence wrong]
    rfl
  | length => exact absurd rfl other
  | reverse =>
    obtain ⟨noScalar, noSequence⟩ := not_or.1 wrong
    rw [Modifier.transform, Value.items_of_not_sequence noSequence,
      Value.scalarText_of_not_scalar noScalar]
    rfl
  | upper | lower | title | truncate | trim | replace | escape | string =>
    rw [Modifier.transform, Value.scalarText_of_not_scalar wrong]
    rfl

theorem length_of_map (entries : List (String × Value)) (args : List Value)
    (limit : Option Nat) :
    ((ModifierName.known .length).apply (.map entries) args limit).value =
      .ofNat entries.length := by
  rw [apply_known, Modifier.transform, Logged.value_pure, Value.length?, Option.some_or,
    Option.map_some, Option.getD_some]

theorem ofNat_ne_undefined (n : Nat) : Value.ofNat n ≠ .undefined := by
  rw [Value.ofNat, Value.ofInt]
  split <;> exact Value.noConfusion

theorem apply_wrong_type_iff {m : Modifier} {v : Value} (wrong : ¬ m.input.Admits v)
    (args : List Value) (limit : Option Nat) :
    ((ModifierName.known m).apply v args limit).value = .undefined ↔
      ¬ (m = .length ∧ v.kind = .map) := by
  by_cases isLength : m = .length
  · subst isLength
    obtain ⟨noScalar, noSequence⟩ := not_or.1 wrong
    cases v with
    | bool _ | int _ | float _ | str _ => exact absurd trivial noScalar
    | seq _ => exact absurd trivial noSequence
    | undefined | none => exact iff_of_true rfl (by rintro ⟨-, isMap⟩; cases isMap)
    | map entries =>
      rw [length_of_map]
      exact iff_of_false (ofNat_ne_undefined _) (not_not.2 ⟨rfl, rfl⟩)
  · rw [apply_known, transform_wrong_type wrong isLength]
    exact iff_of_true rfl fun both => isLength both.1

theorem transform_right_type {m : Modifier} {v : Value} (right : m.input.Admits v)
    (other : m.input ≠ .number) (args : List Value) (limit : Option Nat) :
    (m.transform v args limit).value.isSome = true := by
  cases m with
  | bytes | bytes10 | time | comma => exact absurd rfl other
  | first | last | sort =>
    cases v with
    | seq items => rfl
    | _ => cases right
  | join =>
    cases v with
    | seq items =>
      rw [Modifier.transform, value_mapM]
      rfl
    | _ => cases right
  | length | reverse =>
    cases v with
    | bool _ | int _ | float _ | str _ | seq _ => rfl
    | undefined | none | map _ => exact right.elim False.elim False.elim
  | upper | lower | title | trim | string =>
    cases v with
    | bool _ | int _ | float _ | str _ => rfl
    | _ => cases right
  | truncate | replace | escape =>
    cases v with
    | bool _ | int _ | float _ | str _ =>
      rw [Modifier.transform, value_mapM]
      rfl
    | _ => cases right

theorem undefined_stays {rest : List ModifierCall}
    (known : ∀ call ∈ rest, call.modifier.isKnown = true) (limit : Option Nat) :
    (rest.foldlM (fun v (call : ModifierCall) => call.modifier.apply v call.args limit)
      Value.undefined).value = .undefined := by
  induction rest with
  | nil => rfl
  | cons call rest ih =>
    obtain ⟨first, later⟩ := List.forall_mem_cons.1 known
    obtain ⟨modifier, args⟩ := call
    cases modifier with
    | unknown name => cases first
    | known m =>
      rw [List.foldlM_cons, Logged.value_bind, apply_known, transform_undefined]
      exact ih later

theorem evaluate_rest (scope : Scope) (path : List String) (before rest : List ModifierCall) :
    (Operand.evaluate scope ⟨path, before ++ rest⟩).value =
      (rest.foldlM (fun v (call : ModifierCall) => call.modifier.apply v call.args scope.limit)
        (Operand.evaluate scope ⟨path, before⟩).value).value := by
  rw [Operand.evaluate, List.foldlM_append, Logged.value_bind]
  rfl

/-- Anywhere in a chain, a modifier makes a value that is not of its type undefined, and known
modifiers leave it so to the end of the chain, unless it is the length and the value is a map, whose
entries are counted. Sequences and scalars are accepted by all modifiers that take them. -/
theorem wrong_type_undefined_iff (context : Value) (limit : Option Nat) (path : List String)
    (before rest : List ModifierCall) (m : Modifier) (args : List Value)
    (known : ∀ call ∈ rest, call.modifier.isKnown = true) :
    let scope : Scope := ⟨context, limit⟩
    let v := (Operand.evaluate scope ⟨path, before⟩).value
    let w := (Operand.evaluate scope ⟨path, before ++ [⟨.known m, args⟩]⟩).value
    let last := (Operand.evaluate scope ⟨path, before ++ [⟨.known m, args⟩] ++ rest⟩).value
    (¬ m.input.Admits v → (w = .undefined ↔ ¬ (m = .length ∧ v.kind = .map))) ∧
    (w = .undefined → last = .undefined) ∧
    (∀ entries, m = .length → v = .map entries → w = .ofNat entries.length) ∧
    (m.input.Admits v → m.input ≠ .number →
      (m.transform v args limit).value.isSome = true) := by
  intro scope v w last
  have step : w = ((ModifierName.known m).apply v args limit).value :=
    evaluate_append scope path before ⟨.known m, args⟩
  have final : last = (rest.foldlM (fun v (call : ModifierCall) =>
      call.modifier.apply v call.args limit) w).value :=
    evaluate_rest scope path (before ++ [⟨.known m, args⟩]) rest
  refine ⟨fun wrong => ?_, fun absent => ?_, fun entries isLength isMap => ?_,
    fun right other => transform_right_type right other args limit⟩
  · rw [step]
    exact apply_wrong_type_iff wrong args limit
  · rw [final, absent]
    exact undefined_stays known limit
  · rw [step, isLength, isMap]
    exact length_of_map entries args limit

/-- A sequence is nothing to set in capitals, and what comes of it is nothing to join. -/
theorem wrong_type_undefined_sequence :
    let scope : Scope := ⟨.seq [.str "a"], none⟩
    let rest : List ModifierCall := [⟨.known .trim, []⟩, ⟨.known .join, [.str "-"]⟩]
    (∀ call ∈ rest, call.modifier.isKnown = true) ∧
      (Operand.evaluate scope ⟨[], [⟨.known .upper, []⟩] ++ rest⟩).value = .undefined := by
  intro scope rest
  have known : ∀ call ∈ rest, call.modifier.isKnown = true := by decide
  obtain ⟨undefined, stays, -, -⟩ :=
    wrong_type_undefined_iff (.seq [.str "a"]) none [] [] rest .upper [] known
  exact ⟨known, stays ((undefined id).2 (by decide))⟩

/-- A map is neither scalar nor sequence, and yet it has a length. -/
theorem length_of_map_counted :
    let v : Value := .map [("a", .bool true)]
    ¬ Modifier.length.input.Admits v ∧
      ((ModifierName.known .length).apply v [] none).value = .int 1 := by
  intro v
  exact ⟨fun right => right.elim False.elim False.elim, length_of_map _ [] none⟩

end TitleTemplate
