import TitleTemplate.Proofs.Modifier.Limits
import TitleTemplate.Proofs.Number.Written
import TitleTemplate.Proofs.Value.Integers

/-!
Texts that spell integers. For sizes and durations the decimal digits of an integer of 64 bits are as
good as the integer, since both become the same number first. Groups of digits are made from what is
displayed: an integer displays all of its digits, its text the digits of the number.
-/
namespace TitleTemplate

def notComma (c : Char) : Bool := c ≠ ','

theorem groupThousands_filter (cs : List Char) :
    (groupThousands cs).filter notComma = cs.filter notComma := by
  induction cs with
  | nil => rfl
  | cons c cs ih =>
    have dropped (l : List Char) : (',' :: l).filter notComma = l.filter notComma :=
      List.filter_cons_of_neg (by decide)
    rw [groupThousands]
    split
    · rw [List.filter_cons, dropped, ih, ← List.filter_cons]
    · rw [List.filter_cons, ih, ← List.filter_cons]

theorem groupNumber_filter (cs : List Char) :
    (groupNumber cs).filter notComma = cs.filter notComma := by
  have parts (l : List Char) : (groupThousands (l.takeWhile (· ≠ '.')) ++
      l.dropWhile (· ≠ '.')).filter notComma = l.filter notComma := by
    rw [List.filter_append, groupThousands_filter, ← List.filter_append,
      List.takeWhile_append_dropWhile]
  rw [groupNumber.eq_def]
  split
  rename_i sign digits same
  have whole : sign ++ digits = cs := by
    split at same <;> (cases same; rfl)
  rw [List.append_assoc, List.filter_append, parts, ← List.filter_append, whole]

def grouped (i : Int) : Value := .str (String.ofList (groupNumber (toString i).toList))

theorem toString_filter (i : Int) : (toString i).toList.filter notComma = (toString i).toList := by
  refine List.filter_eq_self.2 fun c member => ?_
  rw [toList_toString, List.mem_append] at member
  rcases member with inSign | inDigits
  · rw [signOf] at inSign
    split at inSign
    · rw [List.mem_singleton.1 inSign]
      decide
    · cases inSign
  · have digit := areDigits_toDigits _ c inDigits
    refine decide_eq_true fun isComma => ?_
    rw [isComma] at digit
    exact absurd digit (by decide)

theorem grouped_injective {i j : Int} (same : grouped i = grouped j) : i = j := by
  have texts := congrArg (List.filter notComma) (String.ofList_injective (Value.str.inj same))
  rw [groupNumber_filter, groupNumber_filter, toString_filter, toString_filter] at texts
  exact toString_injective (String.toList_inj.1 texts)

/-! What the modifiers make of an integer and of its text. -/

theorem number_int (i : Int) : (Value.int i).number? = some (Binary64.ofInt i) := rfl

theorem isFinite_ofInt {i : Int} (small : i.natAbs ≤ Nat.pow 2 63) :
    (Binary64.ofInt i).isFinite = true := by
  obtain ⟨s, m, e, same, -, -⟩ := Binary64.ofInt_finite small
  rw [same]
  rfl

theorem thousandsText_int {i : Int} (small : i.natAbs ≤ Nat.pow 2 63) :
    (thousandsText (.int i)).map Value.str = some (grouped i) := by
  simp only [thousandsText, number_int, isFinite_ofInt small, Value.integer?, Value.display]
  rfl

theorem thousandsText_text {i : Int} (small : i.natAbs ≤ Nat.pow 2 63) :
    ∃ j, Written i j ∧
      (thousandsText (.str (toString i))).map Value.str = some (grouped j) := by
  obtain ⟨j, written, shown⟩ := display_ofInt small
  refine ⟨j, written, ?_⟩
  simp only [thousandsText, number_toString small, isFinite_ofInt small, Value.integer?, shown]
  rfl

theorem transform_of_number {m : Modifier} {v w : Value} (sized : m ∈ [Modifier.bytes, .bytes10, .time])
    (same : v.number? = w.number?) (args : List Value) (limit : Option Nat) :
    m.transform v args limit = m.transform w args limit := by
  simp only [List.mem_cons, List.not_mem_nil, or_false] at sized
  rcases sized with rfl | rfl | rfl <;> simp only [Modifier.transform, same]

/-- Sizes and durations are the same for an integer and for its text. Grouped digits are those of the
integer, or of the one that is written for the number that it becomes, which is what the text is read
as. So they agree exactly for the integers that are written as themselves, and for all of them up to
`2 ^ 53`. -/
theorem integer_text_as_integer (i : Int64) (args : List Value) (limit : Option Nat) :
    let text : Value := .str (toString i.toInt)
    let result (m : Modifier) (v : Value) := ((ModifierName.known m).apply v args limit).value
    (∀ m ∈ [Modifier.bytes, .bytes10, .time], result m text = result m (.ofInt64 i)) ∧
    result .comma (.ofInt64 i) = grouped i.toInt ∧
    (∃ j, Written i.toInt j ∧ result .comma text = grouped j) ∧
    (result .comma text = result .comma (.ofInt64 i) ↔ Written i.toInt i.toInt) ∧
    (i.toInt.natAbs ≤ Nat.pow 2 53 → result .comma text = result .comma (.ofInt64 i)) := by
  intro text result
  have small := natAbs_int64 i
  have shape (m : Modifier) (v : Value) :
      result m v = ((m.transform v args limit).value).getD .undefined := apply_known m v args limit
  have whole : result .comma (.ofInt64 i) = grouped i.toInt := by
    rw [shape, Modifier.transform, Logged.value_pure, Value.ofInt64, thousandsText_int small]
    rfl
  obtain ⟨j, written, shown⟩ := thousandsText_text small
  have read : result .comma text = grouped j := by
    rw [shape, Modifier.transform, Logged.value_pure, shown]
    rfl
  have agree : result .comma text = result .comma (.ofInt64 i) ↔ Written i.toInt i.toInt := by
    rw [read, whole]
    constructor
    · intro same
      rwa [grouped_injective same] at written
    · intro itself
      rw [written_unique written itself]
  refine ⟨fun m sized => ?_, whole, ⟨j, written, read⟩, agree, fun exact => ?_⟩
  · rw [shape, shape, transform_of_number sized
      ((number_toString small).trans (number_int i.toInt).symm)]
    rfl
  · exact agree.2 (written_of_small exact)

theorem integer_text_as_integer_below :
    let text : Value := .str (toString (1234567 : Int64).toInt)
    let result (m : Modifier) (v : Value) := ((ModifierName.known m).apply v [] none).value
    Modifier.time ∈ [Modifier.bytes, .bytes10, .time] ∧ result .time text = result .time (.int 1234567) ∧
      (1234567 : Int64).toInt.natAbs ≤ Nat.pow 2 53 ∧
      result .comma text = result .comma (.int 1234567) := by
  intro text result
  obtain ⟨sized, -, -, -, small⟩ := integer_text_as_integer 1234567 [] none
  exact ⟨by decide, sized .time (by decide), by decide, small (by decide)⟩

/-- The text of an integer that is not written as itself loses the last digit. -/
theorem comma_of_rounded_text :
    let result (v : Value) := ((ModifierName.known .comma).apply v [] none).value
    result (.str "9007199254740993") = .str "9,007,199,254,740,992" ∧
      result (.ofInt64 9007199254740993) = .str "9,007,199,254,740,993" := by
  exact ⟨rfl, rfl⟩

end TitleTemplate
