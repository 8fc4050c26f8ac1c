import TitleTemplate.Proofs.Template.Guards

/-!
How high conditions are. The limit counts the words `not` in front of each other; the words `and`
and `or` are read in loops that ask nothing of it, and each of them puts what has been read so far
under one more node. So the limit bounds a condition when each chain is taken for one level, and
bounds nothing when every node is counted, as asking the condition does.
-/
namespace TitleTemplate

namespace Condition

def height : Condition → Nat
  | .truthy .. | .compare .. => 1
  | .not inner _ => inner.height + 1
  | .and left right _ | .or left right _ => max left.height right.height + 1

def links : Condition → Nat
  | .truthy .. | .compare .. => 0
  | .not inner _ => inner.links
  | .and left right _ | .or left right _ => left.links + right.links + 1

def isAnd : Condition → Bool
  | .and .. => true
  | .truthy .. | .compare .. | .not .. | .or .. => false

def isOr : Condition → Bool
  | .or .. => true
  | .truthy .. | .compare .. | .not .. | .and .. => false

/-- The height when a chain of words `and` is one level, and so is one of words `or`. -/
def levels : Condition → Nat
  | .truthy .. | .compare .. => 1
  | .not inner _ => inner.levels + 1
  | .and left right _ =>
    max (if left.isAnd then left.levels else left.levels + 1) (right.levels + 1)
  | .or left right _ => max (if left.isOr then left.levels else left.levels + 1) (right.levels + 1)

theorem height_pos (c : Condition) : 0 < c.height := by
  cases c <;> simp [height]

/-! None of this looks at positions. -/

theorem height_relocate (f : Position → Position) (c : Condition) :
    (c.relocate f).height = c.height := by
  induction c with
  | truthy | compare => rfl
  | not inner span ih => rw [relocate, height, height, ih]
  | and left right span first second | or left right span first second =>
    rw [relocate, height, height, first, second]

end Condition

section Phrases
variable {ls : List (Lexeme × Span)} {c : Condition} {m : Scope → Bool}

theorem unary_height (unary : IsUnary ls c m) :
    c.height = c.negations + 1 ∧ c.levels = c.negations + 1 ∧ c.isAnd = false ∧ c.isOr = false := by
  induction unary with
  | atom single =>
    cases single <;> exact ⟨rfl, rfl, rfl, rfl⟩
  | not word inner ih =>
    have run := (unary_run inner).1
    obtain ⟨height, levels, _⟩ := ih
    refine ⟨?_, ?_, rfl, rfl⟩
    · rw [Condition.height, Condition.negations, height, run]
      omega
    · rw [Condition.levels, Condition.negations, levels, run]
      omega

theorem conjunction_height (conjunction : IsConjunction ls c m) :
    c.height ≤ c.negations + 1 + c.links ∧
      c.levels ≤ c.negations + (if c.isAnd then 2 else 1) ∧ c.isOr = false := by
  induction conjunction with
  | one only =>
    obtain ⟨height, levels, notAnd, notOr⟩ := unary_height only
    rw [notAnd]
    exact ⟨by omega, by simp [levels], notOr⟩
  | @and _ _ c d _ _ word before last ih =>
    obtain ⟨height, levels, _⟩ := ih
    obtain ⟨rightHeight, rightLevels, _⟩ := unary_height last
    refine ⟨?_, ?_, rfl⟩
    · simp only [Condition.height, Condition.negations, Condition.links]
      omega
    · change max (if c.isAnd then c.levels else c.levels + 1) (d.levels + 1) ≤
        max c.negations d.negations + 2
      grind

theorem disjunction_height (disjunction : IsDisjunction ls c m) :
    c.height ≤ c.negations + 1 + c.links ∧
      c.levels ≤ c.negations + (if c.isOr then 3 else 2) := by
  induction disjunction with
  | one only =>
    obtain ⟨height, levels, notOr⟩ := conjunction_height only
    rw [notOr]
    refine ⟨height, ?_⟩
    split at levels <;> simp <;> omega
  | @or _ _ c d _ _ word before last ih =>
    obtain ⟨height, levels⟩ := ih
    obtain ⟨rightHeight, rightLevels, _⟩ := conjunction_height last
    refine ⟨?_, ?_⟩
    · simp only [Condition.height, Condition.negations, Condition.links]
      omega
    · change max (if c.isOr then c.levels else c.levels + 1) (d.levels + 1) ≤
        max c.negations d.negations + 3
      grind

end Phrases

/-! The words of a chain that goes on, and the chain itself. -/

def chainText : Nat → List Char
  | 0 => []
  | n + 1 => " and a".toList ++ chainText n

def chainLexemes : Nat → List Lexeme
  | 0 => []
  | n + 1 => .word "and" :: .word "a" :: chainLexemes n

theorem endsWord_chain (n : Nat) : EndsWord (chainText n) := by
  cases n with
  | zero => exact endsWord_nil
  | succ n => exact endsWord_cons (by decide) _

theorem enclosed_chain (n : Nat) : Enclosed (chainText n) := by
  induction n with
  | zero => exact enclosed_nil
  | succ n ih => exact enclosed_append (enclosed_of_all (by decide)) ih

theorem plainLexed_chain (n : Nat) :
    plainLexed (chainText n) = Lexed.putAll (chainLexemes n) ⟨[], none, default⟩ := by
  induction n with
  | zero => exact plainLexed_nil
  | succ n ih =>
    have shape : chainText (n + 1) =
        ' ' :: ("and".toList ++ ' ' :: ("a".toList ++ chainText n)) := rfl
    rw [shape, plainLexed_skip (by decide),
      plainLexed_word (by decide) (List.all_eq_true.1 (by decide)) (endsWord_cons (by decide) _),
      plainLexed_skip (by decide),
      plainLexed_word (by decide) (List.all_eq_true.1 (by decide)) (endsWord_chain n), ih]
    rfl

theorem isUnary_name : ∃ m,
    IsUnary (unplaced [.word "a"]) (.truthy ⟨["a"], []⟩ default) m := by
  have path : IsPath "a" ["a"] := isPath_iff.2 ⟨by decide, by decide⟩
  exact ⟨_, .atom (.truthy (.mk default path .none)) (by simp [unplaced])⟩

/-- Every word of a chain puts what came before it one node deeper. -/
theorem chain_height (n : Nat) {ls : List (Lexeme × Span)} {c : Condition} {m : Scope → Bool}
    (before : IsConjunction ls c m) :
    ∃ d k, IsConjunction (ls ++ unplaced (chainLexemes n)) d k ∧ d.height = c.height + n ∧
      d.negations = c.negations := by
  induction n generalizing ls c m with
  | zero => exact ⟨c, m, by rwa [chainLexemes, unplaced, List.map_nil, List.append_nil], rfl, rfl⟩
  | succ n ih =>
    obtain ⟨name, isName⟩ := isUnary_name
    have longer := IsConjunction.and default before isName
    obtain ⟨d, k, chained, height, negations⟩ := ih longer
    have some := c.height_pos
    rw [List.append_assoc] at chained
    refine ⟨d, k, chained, ?_, ?_⟩
    · rw [height, Condition.height, Condition.height]
      omega
    · rw [negations, Condition.negations, Condition.negations, Nat.max_zero]

theorem chain_parsed {limit : Nat} (some : 0 < limit) (n : Nat) :
    ∃ c span, parse limit (asking (String.ofList ('a' :: chainText n))) =
        .ok [.conditional (.guarded c [] .done) span] ∧ c.height = n + 1 := by
  obtain ⟨m, isName⟩ := isUnary_name
  obtain ⟨d, k, chained, height, negations⟩ := chain_height n (.one isName)
  have read : plainLexed ('a' :: chainText n) =
      ⟨unplaced [.word "a"] ++ unplaced (chainLexemes n), none, default⟩ := by
    have word := plainLexed_word (w := ['a']) (by decide) (List.all_eq_true.1 (by decide))
      (endsWord_chain n)
    rw [plainLexed_chain] at word
    exact word.trans (putAll_nothing (.word "a" :: chainLexemes n))
  have shallow : d.negations < limit := by
    rw [negations]
    exact some
  obtain ⟨c, span, parsed, same⟩ := asking_parsed
    (enclosed_append (a := ['a']) (enclosed_of_all (by decide)) (enclosed_chain n)) read
    (.one chained) shallow
  refine ⟨c, span, parsed, ?_⟩
  rw [← c.height_relocate noPosition, same, height]
  exact Nat.add_comm 1 n

/-- In what is read under a limit, the limit bounds the height of a condition up to the lengths of
its chains, and no height is too much for a chain. -/
theorem condition_heights (limit : Nat) :
    (∀ template ns, parse limit template = .ok ns → ∀ c ∈ guardsWithin ns,
      c.levels ≤ limit + 2 ∧ c.height ≤ limit + c.links) ∧
    (0 < limit → ∀ n, ∃ template ns, parse limit template = .ok ns ∧
      ∃ c ∈ guardsWithin ns, c.height = n + 1) := by
  constructor
  · intro template ns parsed c member
    have shallow := (keeps_of_parse parsed).guards c member
    obtain ⟨_, _, _, _, _, _, _, _, condition⟩ := guard_source parsed member
    obtain ⟨height, levels⟩ := disjunction_height condition
    refine ⟨?_, by omega⟩
    split at levels <;> omega
  · intro some n
    obtain ⟨c, span, parsed, height⟩ := chain_parsed some n
    exact ⟨_, _, parsed, c, by simp [guardsWithin, Node.guards, Arms.guards], height⟩

/-- Three words `and` make a condition of height four, which the lowest limit lets through. -/
theorem condition_heights_and :
    let template := "\x7bif a and a and a and a\x7d\x7b/if\x7d"
    ∃ ns, parse 1 template = .ok ns ∧
      ∀ c ∈ guardsWithin ns, c.height = 4 ∧ c.links = 3 ∧ c.levels ≤ 1 + 2 ∧
        c.height ≤ 1 + c.links := by
  intro template
  have counts : ((parse 1 template).toOption.map fun ns =>
      (guardsWithin ns).map fun c => (c.height, c.links)) = some [(4, 3)] := by decide +kernel
  obtain ⟨ns, parsed, all⟩ := parsed_of_map counts
  refine ⟨ns, parsed, fun c member => ?_⟩
  have bounds := (condition_heights 1).1 template ns parsed c member
  have counted : (c.height, c.links) ∈ [(4, 3)] := by
    rw [← all]
    exact List.mem_map_of_mem member
  obtain ⟨height, links⟩ := Prod.mk.inj (List.mem_singleton.1 counted)
  exact ⟨height, links, bounds⟩

/-- Three levels for each of the limit are not enough. -/
theorem condition_height_unbounded :
    ∃ ns, parse 1 "\x7bif a and a and a and a\x7d\x7b/if\x7d" = .ok ns ∧
      ∃ c ∈ guardsWithin ns, 3 * 1 < c.height := by
  have heights : ((parse 1 "\x7bif a and a and a and a\x7d\x7b/if\x7d").toOption.map fun ns =>
      (guardsWithin ns).any fun c => 3 * 1 < c.height) = some true := by decide +kernel
  obtain ⟨ns, parsed, some⟩ := parsed_of_map heights
  obtain ⟨c, member, high⟩ := List.any_eq_true.1 some
  exact ⟨ns, parsed, c, member, of_decide_eq_true high⟩

end TitleTemplate
