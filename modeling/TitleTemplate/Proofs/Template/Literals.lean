import TitleTemplate.Proofs.Template.Parts
import TitleTemplate.Proofs.Template.Words

/-!
Literals keep their text. A bare word may be taken for a number or for a boolean, but only when the
value has the word for its text; so a comparison with a text, which goes by the text of the literal,
cannot tell whether the word was taken for anything else.
-/
namespace TitleTemplate

theorem occursIn_iff {needle cs : List Char} : occursIn needle cs = true ↔ needle <:+: cs := by
  induction cs with
  | nil => rw [occursIn, List.isEmpty_iff, List.infix_nil]
  | cons c cs ih => rw [occursIn, Bool.or_eq_true, ih, List.isPrefixOf_iff_prefix,
      List.infix_cons_iff]

/-- What a comparison of a text with a text says. Of the orders nothing is said here. -/
def Comparison.Tells (op : Comparison) (s v : String) (answer : Bool) : Prop :=
  match op with
  | .eq => answer = true ↔ s = v
  | .ne => answer = true ↔ s ≠ v
  | .contains => answer = true ↔ v.toList <:+: s.toList
  | .gt | .gte | .lt | .lte => True

theorem holds_tells (op : Comparison) (s : String) (literal : Value) :
    op.Tells s literal.display (op.holds (.str s) literal) := by
  cases op with
  | eq => exact beq_iff_eq
  | ne =>
    rw [Comparison.Tells, Comparison.holds, matchesLiteral, Bool.not_eq_true', beq_eq_false_iff_ne]
  | contains => exact occursIn_iff
  | gt | gte | lt | lte => trivial

theorem display_literalOfWord (word : String) : (literalOfWord word).display = word := by
  rw [literalOfWord]
  split
  · rename_i number found
    simpa using (Option.filter_eq_some_iff.1 found).2
  · split_ifs with isTrue isFalse
    · exact isTrue.symm
    · exact isFalse.symm
    · rfl

/-- The text of a literal, as it was written or with its escapes resolved. -/
def Lexeme.literalText? : Lexeme → Option String
  | .word w => some w
  | .text t _ => some t
  | _ => none

theorem literalText_of_isLiteral {l : Lexeme} {v : Value} (literal : IsLiteral l v) :
    l.literalText? = some v.display := by
  cases literal with
  | word word => rw [display_literalOfWord, Lexeme.literalText?]
  | text text escaped => rfl

theorem isLiteral_of_literalText {l : Lexeme} {v : String} (text : l.literalText? = some v) :
    ∃ literal, IsLiteral l literal ∧ literal.display = v := by
  cases l with
  | word w =>
    obtain rfl := Option.some.inj text
    exact ⟨_, .word w, display_literalOfWord w⟩
  | text t escaped =>
    obtain rfl := Option.some.inj text
    exact ⟨_, .text t escaped, rfl⟩
  | pipe | parenOpen | parenClose | comma | compare => cases text

/-- Which value has the text does not matter where a text is compared with it for what it is. -/
theorem holds_of_display {op : Comparison} (plain : op = .eq ∨ op = .ne ∨ op = .contains)
    (s : String) {literal other : Value} (same : literal.display = other.display) :
    op.holds (.str s) literal = op.holds (.str s) other := by
  rcases plain with rfl | rfl | rfl <;>
    simp only [Comparison.holds, matchesLiteral, containsLiteral, same]

/-- A condition that compares with a text, whenever it finds a text to compare. -/
def Compares (c : Condition) (left : Operand) (op : Comparison) (v : String) : Prop :=
  ∀ scope s, (left.evaluate scope).value = .str s → op.Tells s v (c.holds scope).value

theorem compare_compares (left : Operand) (op : Comparison) (right : Value) (span : Span) :
    Compares (.compare left op right span) left op right.display := by
  intro scope s value
  rw [Condition.holds, Logged.value_bind, Logged.value_pure, value]
  exact holds_tells op s right

def WritesLiteral (cs : List Char) (v : String) : Prop :=
  Enclosed cs ∧ ∃ l, plainLexed cs = ⟨[(l, default)], none, default⟩ ∧ l.literalText? = some v

theorem writesLiteral_word {w : List Char} (some : w ≠ [])
    (word : ∀ c ∈ w, isWordChar c = true) : WritesLiteral w (String.ofList w) := by
  have lexed := plainLexed_word some word endsWord_nil
  rw [List.append_nil, plainLexed_nil] at lexed
  exact ⟨enclosed_word word, _, lexed, rfl⟩

theorem writesLiteral_quote (text : List Char) :
    WritesLiteral (quote text) (String.ofList text) := by
  have lexed := plainLexed_quote text []
  rw [List.append_nil, plainLexed_nil] at lexed
  exact ⟨enclosed_quote text, _, lexed, rfl⟩

theorem plainLexed_comparison {raw : String} {path : List String} (named : IsPath raw path)
    (op : Comparison) {w : List Char} {l : Lexeme}
    (read : plainLexed w = ⟨[(l, default)], none, default⟩) :
    plainLexed (raw.toList ++ ' ' :: (op.symbol.toList ++ ' ' :: w)) =
      ⟨[(.word raw, default), (.compare op, default), (l, default)], none, default⟩ := by
  obtain ⟨some, word⟩ := word_of_segments (isPath_iff.1 named).1
  rw [plainLexed_word some word (endsWord_cons (by decide) _), plainLexed_skip (by decide),
    plainLexed_compare, read, String.ofList_toList]
  rfl

theorem enclosed_comparison {raw : String} {path : List String} (named : IsPath raw path)
    (op : Comparison) {w : List Char} (enclosed : Enclosed w) :
    Enclosed (raw.toList ++ ' ' :: (op.symbol.toList ++ ' ' :: w)) := by
  have blank : Enclosed [' '] := enclosed_char (by decide) (by decide)
  have symbol : Enclosed op.symbol.toList := enclosed_of_all (by cases op <;> decide)
  have path := enclosed_word (word_of_segments (isPath_iff.1 named).1).2
  exact enclosed_append path (enclosed_append blank (enclosed_append symbol
    (enclosed_append blank enclosed)))

theorem comparison_written {limit : Nat} (room : 0 < limit) {raw v : String} {path : List String}
    {w : List Char} (named : IsPath raw path) (other : raw ≠ "not") (op : Comparison)
    (written : WritesLiteral w v) :
    ∃ literal place span,
      parse limit (asking (raw ++ " " ++ op.symbol ++ " " ++ String.ofList w)) =
        .ok [.conditional (.guarded (.compare ⟨path, []⟩ op literal place) [] .done) span] ∧
      literal.display = v := by
  obtain ⟨enclosed, l, read, text⟩ := written
  obtain ⟨literal, isLiteral, same⟩ := isLiteral_of_literalText text
  have phrase : IsDisjunction [(.word raw, default), (.compare op, default), (l, default)] _ _ :=
    .one (.one (.atom (.compare op default default (.mk default named .none) isLiteral)
      (by simpa using other)))
  obtain ⟨d, span, parsed, plain⟩ := asking_parsed (enclosed_comparison named op enclosed)
    (plainLexed_comparison named op read) phrase room
  have shape : String.ofList (raw.toList ++ ' ' :: (op.symbol.toList ++ ' ' :: w)) =
      raw ++ " " ++ op.symbol ++ " " ++ String.ofList w := by
    rw [← String.toList_inj]
    simp
  rw [shape] at parsed
  cases d with
  | truthy | not | and | or => cases plain
  | compare left op right place =>
    injection plain with sameLeft sameOp sameRight
    subst sameLeft sameOp sameRight
    exact ⟨right, place, span, parsed, same⟩

theorem comparison_lexed {limit : Nat} {template : String} {ns : List Node} {guard : Condition}
    {left : Operand} {op : Comparison} {right : Value} {span : Span}
    (parsed : parse limit template = .ok ns) (member : guard ∈ guardsWithin ns)
    (inside : .compare left op right span ∈ guard.parts) :
    ∃ before l, plainLexed (span.slice template).toList =
        ⟨before ++ [(l, default)], none, default⟩ ∧ l.literalText? = some right.display := by
  obtain ⟨part, ms, _, covers, _, lexed, condition⟩ := condition_lexed parsed member inside
  have covered : span.slice template = String.ofList part := slice_of_covers covers
  obtain ⟨ls, l, place, shape, literal⟩ :
      ∃ ls l place, ms = ls ++ [(l, place)] ∧ IsLiteral l right := by
    -- No chain and no negation is a comparison, so that the phrase is an atom.
    cases condition with
    | one only =>
      cases only with
      | one only =>
        cases only with
        | atom single =>
          cases single with
          | compare op operator place operand literal =>
            exact ⟨_, _, place, List.append_cons _ _ _, literal⟩
  refine ⟨relocateLexemes noPosition ls, l, ?_, literalText_of_isLiteral literal⟩
  rw [covered, String.toList_ofList, lexed, shape, relocateLexemes, List.map_append]
  rfl

end TitleTemplate
