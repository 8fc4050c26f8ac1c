import TitleTemplate.Proofs.Modifier.NumericText

/-!
Where the commas of a grouped number stand. Whatever stands in grouped digits is a digit of the
number, followed by the digits behind it in their groups, or a comma between two of them. So a comma
is where it is for the digits to its right alone.
-/
namespace TitleTemplate

/-- Commas stand between digits, and between two digits there is one just when those to its right are
a multiple of three. -/
structure InThrees (text : List Char) : Prop where
  between : ∀ before after, text = before ++ ',' :: after →
    (∃ d ∈ before.getLast?, isDigit d = true) ∧ ∃ d ∈ after.head?, isDigit d = true
  place : ∀ before d after, text = before ++ d :: after → isDigit d = true →
    (after.head? = some ',' ↔ 0 < after.countP isDigit ∧ 3 ∣ after.countP isDigit)

def groupsBehind (cs : List Char) : List Char :=
  if cs ≠ [] ∧ cs.length % 3 = 0 then ',' :: groupThousands cs else groupThousands cs

theorem groupThousands_cons (c : Char) (cs : List Char) :
    groupThousands (c :: cs) = c :: groupsBehind cs := by
  rw [groupThousands, groupsBehind]
  split <;> rfl

theorem head?_groupThousands (cs : List Char) : (groupThousands cs).head? = cs.head? := by
  cases cs with
  | nil => rfl
  | cons c cs => rw [groupThousands_cons, List.head?_cons, List.head?_cons]

/-- A character of grouped digits, with what is before and after it. -/
inductive GroupedAt (cs before : List Char) (c : Char) (after : List Char) : Prop
  | digit (front back : List Char) (shape : cs = front ++ c :: back)
      (behind : after = groupsBehind back)
  | comma (front back : List Char) (d e : Char) (shape : cs = front ++ d :: e :: back)
      (is : c = ',') (ends : before.getLast? = some d) (behind : after.head? = some e)

theorem groupedAt_cons {cs before after : List Char} {c : Char} (d : Char) (skipped : List Char)
    (here : GroupedAt cs before c after) :
    GroupedAt (d :: cs) (d :: (skipped ++ before)) c after := by
  cases here with
  | digit front back shape behind => exact .digit (d :: front) back (by rw [shape]; rfl) behind
  | comma front back e f shape is ends behind =>
    refine .comma (d :: front) back e f (by rw [shape]; rfl) is ?_ behind
    rw [List.getLast?_cons, List.getLast?_append, ends]
    rfl

theorem groupedAt_of_split {cs before after : List Char} {c : Char}
    (split : groupThousands cs = before ++ c :: after) : GroupedAt cs before c after := by
  induction cs generalizing before with
  | nil => simp [groupThousands] at split
  | cons d cs ih =>
    rw [groupThousands_cons] at split
    cases before with
    | nil =>
      obtain ⟨rfl, rfl⟩ := List.cons.inj split
      exact .digit [] cs rfl rfl
    | cons e before =>
      obtain ⟨rfl, behind⟩ := List.cons.inj split
      rw [groupsBehind] at behind
      split_ifs at behind with ends
      · cases before with
        | nil =>
          obtain ⟨isComma, rest⟩ := List.cons.inj behind
          obtain ⟨f, back, rfl⟩ := List.exists_cons_of_ne_nil ends.1
          exact .comma [] back d f rfl isComma.symm rfl (rest ▸ head?_groupThousands _)
        | cons f before =>
          obtain ⟨rfl, later⟩ := List.cons.inj behind
          exact groupedAt_cons d [','] (ih later)
      · exact groupedAt_cons d [] (ih behind)

theorem countP_groupThousands (cs : List Char) :
    (groupThousands cs).countP isDigit = cs.countP isDigit := by
  have noComma (l : List Char) : (l.filter notComma).countP isDigit = l.countP isDigit := by
    rw [List.countP_filter]
    refine List.countP_congr fun c _ => ?_
    rw [Bool.and_eq_true, and_iff_left_iff_imp]
    intro digit
    refine decide_eq_true fun isComma => ?_
    rw [isComma] at digit
    exact absurd digit (by decide)
  rw [← noComma, groupThousands_filter, noComma]

theorem countP_groupsBehind (cs : List Char) :
    (groupsBehind cs).countP isDigit = cs.countP isDigit := by
  rw [groupsBehind]
  split
  · rw [List.countP_cons_of_neg (by decide), countP_groupThousands]
  · exact countP_groupThousands cs

theorem head?_groupsBehind {cs : List Char} (digits : AreDigits cs) :
    (groupsBehind cs).head? = some ',' ↔ cs ≠ [] ∧ cs.length % 3 = 0 := by
  rw [groupsBehind]
  split
  · rename_i ends
    exact iff_of_true rfl ends
  · rename_i goesOn
    refine iff_of_false ?_ goesOn
    rw [head?_groupThousands]
    intro isComma
    exact absurd (digits ',' (List.mem_of_head? isComma)) (by decide)

theorem inThrees_groupThousands {cs : List Char} (digits : AreDigits cs) :
    InThrees (groupThousands cs) := by
  constructor
  · intro before after split
    cases groupedAt_of_split split with
    | digit front back shape behind => exact absurd (digits ',' (by simp [shape])) (by decide)
    | comma front back d e shape is ends behind =>
      exact ⟨⟨d, ends, digits d (by simp [shape])⟩, ⟨e, behind, digits e (by simp [shape])⟩⟩
  · intro before d after split digit
    cases groupedAt_of_split split with
    | comma front back _ _ shape is => exact absurd (is ▸ digit) (by decide)
    | digit front back shape behind =>
      have rest : AreDigits back := fun c member => digits c (by simp [shape, member])
      have all : back.countP isDigit = back.length := List.countP_eq_length.2 rest
      rw [behind, countP_groupsBehind, head?_groupsBehind rest, all, List.length_pos_iff,
        Nat.dvd_iff_mod_eq_zero]

theorem inThrees_minus {digits : List Char} (grouped : InThrees digits) :
    InThrees ('-' :: digits) := by
  obtain ⟨between, place⟩ := grouped
  constructor
  · intro before after split
    cases before with
    | nil => exact absurd (List.cons.inj split).1 (by decide)
    | cons d before =>
      obtain ⟨⟨e, ends, digit⟩, follows⟩ := between before after (List.cons.inj split).2
      refine ⟨⟨e, ?_, digit⟩, follows⟩
      rw [List.getLast?_cons, Option.mem_def.1 ends]
      rfl
  · intro before d after split digit
    cases before with
    | nil =>
      rw [← (List.cons.inj split).1] at digit
      exact absurd digit (by decide)
    | cons e before => exact place before d after (List.cons.inj split).2 digit

theorem groupNumber_digits {digits : List Char} (areDigits : AreDigits digits) :
    groupNumber digits = groupThousands digits ∧
      groupNumber ('-' :: digits) = '-' :: groupThousands digits := by
  have noPoint : ∀ c ∈ digits, (decide (c ≠ '.')) = true := by
    intro c member
    refine decide_eq_true fun isPoint => ?_
    exact absurd (areDigits c member) (by rw [isPoint]; decide)
  have whole : groupThousands (digits.takeWhile (· ≠ '.')) ++ digits.dropWhile (· ≠ '.') =
      groupThousands digits := by
    rw [List.takeWhile_eq_self_iff.2 noPoint, List.dropWhile_eq_nil_iff.2 noPoint, List.append_nil]
  refine ⟨?_, congrArg ('-' :: ·) whole⟩
  rw [← whole]
  cases digits with
  | nil => rfl
  | cons c digits =>
    have noMinus : c ≠ '-' := by
      rintro rfl
      exact absurd (areDigits '-' List.mem_cons_self) (by decide)
    simp [groupNumber, noMinus]

theorem inThrees_toString (i : Int) : InThrees (groupNumber (toString i).toList) := by
  have digits := areDigits_toDigits i.natAbs
  rw [toList_toString, signOf]
  split
  · rw [List.singleton_append, (groupNumber_digits digits).2]
    exact inThrees_minus (inThrees_groupThousands digits)
  · rw [List.nil_append, (groupNumber_digits digits).1]
    exact inThrees_groupThousands digits

/-- Every integer of 64 bits is written with commas before every third digit from the right and
nowhere else; without them it is the decimal text of the integer, so different integers have
different texts. -/
theorem integer_in_threes (i : Int64) (args : List Value) (limit : Option Nat) :
    let result (j : Int64) := ((ModifierName.known .comma).apply (.ofInt64 j) args limit).value
    ∃ text : List Char, result i = .str (String.ofList text) ∧
      text.filter (· ≠ ',') = (toString i.toInt).toList ∧ InThrees text ∧
      ∀ j, result j = result i → j = i := by
  intro result
  have shown (j : Int64) : result j = grouped j.toInt := by
    change ((ModifierName.known .comma).apply (.ofInt64 j) args limit).value = _
    rw [apply_known, Modifier.transform, Logged.value_pure, Value.ofInt64,
      thousandsText_int (natAbs_int64 j)]
    rfl
  refine ⟨groupNumber (toString i.toInt).toList, shown i, ?_, inThrees_toString i.toInt, ?_⟩
  · exact (groupNumber_filter _).trans (toString_filter i.toInt)
  · intro j same
    rw [shown, shown] at same
    exact Int64.toInt_inj.1 (grouped_injective same)

/-- The least integer of 64 bits. -/
theorem integer_in_threes_least :
    let result (j : Int64) := ((ModifierName.known .comma).apply (.ofInt64 j) [] none).value
    result Int64.minValue = .str "-9,223,372,036,854,775,808" ∧
      (∀ j, result j = result Int64.minValue → j = Int64.minValue) ∧
      InThrees "-9,223,372,036,854,775,808".toList := by
  intro result
  have shown : result Int64.minValue = .str "-9,223,372,036,854,775,808" := rfl
  obtain ⟨text, written, -, grouped, injective⟩ := integer_in_threes Int64.minValue [] none
  have same : String.ofList text = "-9,223,372,036,854,775,808" :=
    Value.str.inj (written.symm.trans shown)
  refine ⟨shown, injective, ?_⟩
  rwa [← same, String.toList_ofList]

end TitleTemplate
