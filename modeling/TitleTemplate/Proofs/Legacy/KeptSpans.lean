import TitleTemplate.Proofs.Legacy.Rewriting

/-!
A span that stays as it is. Its end is found without looking at what it says, but where the span
ends the expression ends, so that the span spells the output it is by itself wherever it stands.
-/
namespace TitleTemplate.Legacy

/-- The characters of an expression outside of its quotes, without those that stand after a
backslash. -/
def unquotedFrom : Option Char → List Char → List Char
  | _, [] => []
  | quote, '\\' :: _ :: cs => unquotedFrom quote cs
  | none, c :: cs => c :: unquotedFrom (if isQuote c then some c else none) cs
  | some q, c :: cs => unquotedFrom (if c = q then none else some q) cs

theorem not_escape {c : Char} {cs : List Char} (last : c = '\\' → cs = [] → False)
    (inside : ∀ d ds, c = '\\' → cs = d :: ds → False) : c ≠ '\\' := by
  intro same
  cases cs with
  | nil => exact last same rfl
  | cons d ds => exact inside d ds same rfl

theorem spanLength_enclosed {quote : Option Char} {cs : List Char} {n : Nat}
    (found : spanLength quote cs = some n) :
    ∃ inner rest, cs = inner ++ '\x7d' :: rest ∧ n = inner.length + 1 ∧ Enclosed inner ∧
      '\x7b' ∉ unquotedFrom quote inner := by
  fun_induction spanLength quote cs generalizing n with
  | case1 | case2 | case5 => cases found
  | case3 quote c cs ih =>
    obtain ⟨m, later, rfl⟩ := Option.map_eq_some_iff.1 found
    obtain ⟨inner, rest, rfl, rfl, enclosed, closed⟩ := ih later
    have whole := enclosed_append (enclosed_escape c) enclosed
    exact ⟨'\\' :: c :: inner, rest, rfl, rfl, whole, by rwa [unquotedFrom]⟩
  | case4 quote cs =>
    obtain rfl := Option.some.inj found
    exact ⟨[], cs, rfl, rfl, enclosed_nil, List.not_mem_nil⟩
  | case6 c cs noEscape noEscapes noClose noOpen ih =>
    obtain ⟨m, later, rfl⟩ := Option.map_eq_some_iff.1 found
    obtain ⟨inner, rest, rfl, rfl, enclosed, closed⟩ := ih later
    have plain := not_escape noEscape noEscapes
    have whole := enclosed_append (enclosed_char noClose plain) enclosed
    refine ⟨c :: inner, rest, rfl, rfl, whole, ?_⟩
    rw [unquotedFrom, List.mem_cons, not_or]
    · exact ⟨Ne.symm noOpen, closed⟩
    · exact fun _ _ same _ => plain same
  | case7 c cs noEscape noEscapes noClose q ih =>
    obtain ⟨m, later, rfl⟩ := Option.map_eq_some_iff.1 found
    obtain ⟨inner, rest, rfl, rfl, enclosed, closed⟩ := ih later
    have plain := not_escape noEscape noEscapes
    have whole := enclosed_append (enclosed_char noClose plain) enclosed
    refine ⟨c :: inner, rest, rfl, rfl, whole, ?_⟩
    rw [unquotedFrom]
    · exact closed
    · exact fun _ _ same _ => plain same

theorem spanLength_of_split {quote : Option Char} {cs inner rest : List Char}
    (found : splitAtClose cs = some (inner, rest)) (closed : '\x7b' ∉ unquotedFrom quote inner) :
    spanLength quote cs = some (inner.length + 1) := by
  fun_induction splitAtClose cs generalizing quote inner rest with
  | case1 => cases found
  | case2 cs =>
    obtain ⟨rfl, rfl⟩ := Prod.mk.inj (Option.some.inj found)
    cases quote <;> rw [spanLength, if_pos rfl] <;> simp
  | case3 c cs ih =>
    obtain ⟨⟨a, b⟩, later, same⟩ := Option.map_eq_some_iff.1 found
    obtain ⟨rfl, rfl⟩ := Prod.mk.inj same
    rw [unquotedFrom] at closed
    rw [spanLength, ih later closed]
    rfl
  | case4 c cs notClose noEscape ih =>
    obtain ⟨⟨a, b⟩, later, same⟩ := Option.map_eq_some_iff.1 found
    obtain ⟨rfl, rfl⟩ := Prod.mk.inj same
    have plain : c ≠ '\\' := by
      rintro rfl
      cases cs with
      | nil => cases later
      | cons d cs => exact noEscape d cs rfl rfl
    cases quote with
    | none =>
      rw [unquotedFrom, List.mem_cons, not_or] at closed
      · rw [spanLength, if_neg notClose, if_neg (Ne.symm closed.1), ih later closed.2]
        · rfl
        · exact fun same _ => plain same
        · exact fun _ _ same _ => plain same
      · exact fun _ _ same _ => plain same
    | some q =>
      rw [unquotedFrom] at closed
      · rw [spanLength, if_neg notClose, ih later closed]
        · rfl
        · exact fun same _ => plain same
        · exact fun _ _ same _ => plain same
      · exact fun _ _ same _ => plain same

theorem itemOf_of_output {limit : Nat} {inner : List Char} {operand : Operand} {span : Span}
    (enclosed : Enclosed inner) (single : inner.head? ≠ some '\x7b')
    (parsed : parse limit (String.ofList (braced inner)) = .ok [.output operand span]) :
    ∃ operand, itemOf limit inner = some (.output operand) := by
  have read := outline_of_parse parsed
  rw [← List.append_nil (braced inner), outline_braced enclosed single] at read
  cases found : itemOf limit inner with
  | none =>
    rw [advance_none found] at read
    cases read
  | some item =>
    rw [advance_item found] at read
    cases item with
    | output operand => exact ⟨operand, rfl⟩
    | openIf guard =>
      split at read
      · cases read
      · have opened : (Progress.place (.openIf guard) default .start).toOption =
            some ⟨[], [⟨default, [], some guard, []⟩]⟩ := rfl
        rw [opened, Option.bind_some, outline_nil] at read
        cases read
    | elseIf guard => cases read
    | otherwise => cases read
    | closeIf => cases read

theorem isOutput_iff {text : List Char} :
    isOutput text = true ↔
      ∃ operand span, parse Limits.default.depth (String.ofList text) =
        .ok [.output operand span] := by
  rw [isOutput]
  constructor
  · intro output
    split at output
    · rename_i operand span parsed
      exact ⟨operand, span, parsed⟩
    · cases output
  · rintro ⟨operand, span, parsed⟩
    rw [parsed]

/-- What stands in an output that stays as it is. Its brace is closed at the end, no other brace
opens in it outside of quotes, and by itself it is an output. -/
structure IsOutputSpan (inner : List Char) : Prop where
  enclosed : Enclosed inner
  closed : '\x7b' ∉ unquotedFrom none inner
  output : ∃ operand span,
    parse Limits.default.depth (String.ofList (braced inner)) = .ok [.output operand span]

theorem take_span (inner rest : List Char) :
    (inner ++ '\x7d' :: rest).take (inner.length + 1) = inner ++ ['\x7d'] := by
  rw [List.take_length_add_append]
  rfl

theorem keptSpan_iff {cs : List Char} {n : Nat} :
    keptSpan cs = some n ↔
      ∃ inner rest, cs = inner ++ '\x7d' :: rest ∧ n = inner.length + 1 ∧ IsOutputSpan inner := by
  constructor
  · intro kept
    obtain ⟨found, output⟩ := Option.filter_eq_some_iff.1 kept
    obtain ⟨inner, rest, rfl, rfl, enclosed, closed⟩ := spanLength_enclosed found
    rw [take_span] at output
    exact ⟨inner, rest, rfl, rfl, enclosed, closed, isOutput_iff.1 output⟩
  · rintro ⟨inner, rest, rfl, rfl, enclosed, closed, output⟩
    have split : splitAtClose (inner ++ '\x7d' :: rest) = some (inner, rest) := by
      rw [enclosed, splitAtClose, Option.map_some, List.append_nil]
    refine Option.filter_eq_some_iff.2 ⟨spanLength_of_split split closed, ?_⟩
    rw [take_span]
    exact isOutput_iff.2 output

variable {inner : List Char}

theorem outputSpan_single (span : IsOutputSpan inner) : inner.head? ≠ some '\x7b' := by
  intro first
  obtain ⟨tail, rfl⟩ : ∃ tail, inner = '\x7b' :: tail := List.head?_eq_some_iff.1 first
  refine span.closed ?_
  rw [unquotedFrom]
  · exact List.mem_cons_self
  · exact fun _ _ same _ => absurd same (by decide)

theorem outputSpan_item (span : IsOutputSpan inner) :
    ∃ operand, itemOf Limits.default.depth inner = some (.output operand) := by
  obtain ⟨operand, _, parsed⟩ := span.output
  exact itemOf_of_output span.enclosed (outputSpan_single span) parsed

theorem outputSpan_spells (span : IsOutputSpan inner) :
    ∃ operand, Spells Limits.default.depth 0 (braced inner) [.output operand default] := by
  obtain ⟨operand, read⟩ := outputSpan_item span
  exact ⟨operand, spells_output span.enclosed (outputSpan_single span) read⟩

end TitleTemplate.Legacy
