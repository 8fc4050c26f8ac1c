import TitleTemplate.Proofs.Template.Depth
import TitleTemplate.Proofs.Template.Operands
import TitleTemplate.Template.Render

/-!
The grammar of conditions, over the grammar of operands:

  disjunction := conjunction ('or' conjunction)*
  conjunction := unary ('and' unary)*
  unary       := 'not' unary | atom
  atom        := operand [comparator literal]

Each rule says of a run of lexemes what its tree is and when it holds; chains lean to the left. A
word that begins a unary condition is never taken for a path when it is `not`; `and` and `or` are
looked for only where a condition is complete. The reader of conditions reads just these runs, as
long as no run of words `not` goes deeper than the limit.
-/
namespace TitleTemplate

def extent (ls : List (Lexeme × Span)) : Span := ⟨Reading.start ls, lastStop ls⟩

inductive IsAtom : List (Lexeme × Span) → Condition → (Scope → Bool) → Prop
  | truthy {ls : List (Lexeme × Span)} {o : Operand} (operand : IsOperand ls o) :
      IsAtom ls (.truthy o (extent ls)) fun scope => (o.evaluate scope).value.isTruthy
  | compare {ls : List (Lexeme × Span)} {o : Operand} {l : Lexeme} {v : Value} (op : Comparison)
      (operator span : Span) (operand : IsOperand ls o) (literal : IsLiteral l v) :
      IsAtom (ls ++ [(.compare op, operator), (l, span)])
        (.compare o op v (extent (ls ++ [(.compare op, operator), (l, span)])))
        fun scope => op.holds (o.evaluate scope).value v

inductive IsUnary : List (Lexeme × Span) → Condition → (Scope → Bool) → Prop
  | atom {ls : List (Lexeme × Span)} {c : Condition} {m : Scope → Bool} (single : IsAtom ls c m)
      (plain : ∀ span rest, ls ≠ (.word "not", span) :: rest) : IsUnary ls c m
  | not {ls : List (Lexeme × Span)} {c : Condition} {m : Scope → Bool} (word : Span)
      (inner : IsUnary ls c m) :
      IsUnary ((.word "not", word) :: ls) (.not c (extent ((.word "not", word) :: ls)))
        fun scope => !m scope

inductive IsConjunction : List (Lexeme × Span) → Condition → (Scope → Bool) → Prop
  | one {ls : List (Lexeme × Span)} {c : Condition} {m : Scope → Bool} (only : IsUnary ls c m) :
      IsConjunction ls c m
  | and {ls ms : List (Lexeme × Span)} {c d : Condition} {m n : Scope → Bool} (word : Span)
      (before : IsConjunction ls c m) (last : IsUnary ms d n) :
      IsConjunction (ls ++ (.word "and", word) :: ms)
        (.and c d (extent (ls ++ (.word "and", word) :: ms))) fun scope => m scope && n scope

inductive IsDisjunction : List (Lexeme × Span) → Condition → (Scope → Bool) → Prop
  | one {ls : List (Lexeme × Span)} {c : Condition} {m : Scope → Bool}
      (only : IsConjunction ls c m) : IsDisjunction ls c m
  | or {ls ms : List (Lexeme × Span)} {c d : Condition} {m n : Scope → Bool} (word : Span)
      (before : IsDisjunction ls c m) (last : IsConjunction ms d n) :
      IsDisjunction (ls ++ (.word "or", word) :: ms)
        (.or c d (extent (ls ++ (.word "or", word) :: ms))) fun scope => m scope || n scope

def EndsAtom (ls : List (Lexeme × Span)) : Prop :=
  EndsOperand ls ∧ ∀ l ∈ ls.head?, ∀ op, l.1 ≠ .compare op

theorem endsAtom_nil : EndsAtom [] := by
  constructor
  · exact endsOperand_nil
  · intro l member
    cases member

theorem endsAtom_word (word : String) (span : Span) (rest : List (Lexeme × Span)) :
    EndsAtom ((.word word, span) :: rest) := by
  constructor <;> intro l member <;> obtain rfl := Option.some.inj member <;> simp

theorem start_append {ls : List (Lexeme × Span)} (some : ls ≠ []) (rest : List (Lexeme × Span)) :
    Reading.start (ls ++ rest) = Reading.start ls := by
  cases ls with
  | nil => exact absurd rfl some
  | cons l ls => rfl

section Phrases
variable {ls : List (Lexeme × Span)} {c : Condition} {m : Scope → Bool}

theorem atom_ne_nil (atom : IsAtom ls c m) : ls ≠ [] := by
  cases atom with
  | truthy operand => exact operand_ne_nil operand
  | compare => simp

theorem unary_ne_nil (unary : IsUnary ls c m) : ls ≠ [] := by
  cases unary with
  | atom single => exact atom_ne_nil single
  | not => simp

theorem conjunction_ne_nil (conjunction : IsConjunction ls c m) : ls ≠ [] := by
  cases conjunction with
  | one only => exact unary_ne_nil only
  | and => simp

theorem disjunction_ne_nil (disjunction : IsDisjunction ls c m) : ls ≠ [] := by
  cases disjunction with
  | one only => exact conjunction_ne_nil only
  | or => simp

/-! How deep a condition goes is seen from the words `not` in its phrase. -/

/-- A unary condition is a run of words `not`, all of them keywords, before an atom. -/
theorem unary_run (unary : IsUnary ls c m) :
    c.negations = c.leading ∧ ∃ nots rest, ls = nots ++ rest ∧
      nots.map Prod.fst = List.replicate c.leading (.word "not") ∧ rest ≠ [] ∧
        ∀ span more, rest ≠ (.word "not", span) :: more := by
  induction unary with
  | atom single plain =>
    have none : ∀ {ls c m}, IsAtom ls c m → c.leading = 0 ∧ c.negations = 0 := by
      intro ls c m single
      cases single <;> exact ⟨rfl, rfl⟩
    obtain ⟨leading, negations⟩ := none single
    rw [leading, negations]
    exact ⟨rfl, [], _, rfl, rfl, atom_ne_nil single, plain⟩
  | @not ls c m word inner ih =>
    obtain ⟨same, nots, rest, shape, words, some, plain⟩ := ih
    refine ⟨?_, (.word "not", word) :: nots, rest, ?_, ?_, some, plain⟩
    · simp only [Condition.negations, Condition.leading]
      omega
    · rw [shape, List.cons_append]
    · rw [List.map_cons, words, Condition.leading, List.replicate_succ]

theorem unary_negations (unary : IsUnary ls c m) : c.negations < ls.length := by
  obtain ⟨same, nots, rest, rfl, words, some, _⟩ := unary_run unary
  have counted := congrArg List.length words
  have more := List.length_pos_iff.2 some
  rw [List.length_map, List.length_replicate] at counted
  rw [List.length_append]
  omega

theorem conjunction_negations (conjunction : IsConjunction ls c m) : c.negations < ls.length := by
  induction conjunction with
  | one only => exact unary_negations only
  | and word before last ih =>
    have right := unary_negations last
    simp only [Condition.negations, List.length_append, List.length_cons]
    omega

theorem disjunction_negations (disjunction : IsDisjunction ls c m) : c.negations < ls.length := by
  induction disjunction with
  | one only => exact conjunction_negations only
  | or word before last ih =>
    have right := conjunction_negations last
    simp only [Condition.negations, List.length_append, List.length_cons]
    omega

/-! A condition holds when its phrase says so. -/

theorem atom_holds (atom : IsAtom ls c m) (scope : Scope) : (c.holds scope).value = m scope := by
  cases atom <;> rfl

theorem unary_holds (unary : IsUnary ls c m) (scope : Scope) : (c.holds scope).value = m scope := by
  induction unary with
  | atom single => exact atom_holds single scope
  | not word inner ih => rw [Condition.holds, Logged.value_bind, Logged.value_pure, ih]

theorem conjunction_holds (conjunction : IsConjunction ls c m) (scope : Scope) :
    (c.holds scope).value = m scope := by
  induction conjunction with
  | one only => exact unary_holds only scope
  | and word before last ih =>
    have right := unary_holds last scope
    rw [Condition.holds, Logged.value_bind, ih]
    dsimp only
    split <;> simp [*]

theorem disjunction_holds (disjunction : IsDisjunction ls c m) (scope : Scope) :
    (c.holds scope).value = m scope := by
  induction disjunction with
  | one only => exact conjunction_holds only scope
  | or word before last ih =>
    have right := conjunction_holds last scope
    rw [Condition.holds, Logged.value_bind, ih]
    dsimp only
    split <;> simp [*]

end Phrases

namespace Reading
variable {r : Reading}

/-! What is taken is a phrase. -/

theorem atom_sound {ls : List (Lexeme × Span)} {read : Read Condition}
    (found : r.atom ls = .ok read) :
    ∃ taken m, ls = taken ++ read.rest ∧ IsAtom taken read.value m ∧
      read.stop = lastStop taken := by
  obtain ⟨left, operand, found⟩ := bind_eq_ok.1 found
  obtain ⟨taken, shape, isOperand, stop⟩ := operand_sound operand
  have begins : start ls = start taken := by
    rw [shape, start_append (operand_ne_nil isOperand)]
  obtain ⟨o, leftStop, leftRest⟩ := left
  dsimp only at *
  split at found
  · cases found
  · rename_i op operator l span rest
    obtain ⟨v, literal, found⟩ := bind_eq_ok.1 found
    obtain rfl := Except.ok.inj found
    have ends : lastStop (taken ++ [(.compare op, operator), (l, span)]) = span.stop := by
      simp [lastStop]
    have phrase := IsAtom.compare op operator span isOperand (literal_iff.1 literal)
    rw [extent, ends, start_append (operand_ne_nil isOperand), ← begins] at phrase
    refine ⟨_, _, ?_, phrase, ends.symm⟩
    rw [shape, List.append_assoc]
    rfl
  · obtain rfl := Except.ok.inj found
    have phrase := IsAtom.truthy isOperand
    rw [extent, ← begins, ← stop] at phrase
    exact ⟨taken, _, shape, phrase, stop⟩

theorem unary_sound {depth : Nat} {ls : List (Lexeme × Span)} {read : Read Condition}
    (found : r.unary depth ls = .ok read) :
    ∃ taken m, ls = taken ++ read.rest ∧ IsUnary taken read.value m ∧
      read.stop = lastStop taken := by
  fun_induction unary r depth ls generalizing read with
  | case1 => cases found
  | case2 depth word rest shallow ih =>
    obtain ⟨inner, negated, found⟩ := bind_eq_ok.1 found
    obtain rfl := Except.ok.inj found
    obtain ⟨taken, m, shape, isUnary, stop⟩ := ih negated
    have ends := lastStop_after [] (.word "not", word) (unary_ne_nil isUnary)
    rw [List.nil_append, ← stop] at ends
    have phrase := IsUnary.not word isUnary
    rw [extent, ends] at phrase
    refine ⟨_, _, ?_, phrase, ends.symm⟩
    rw [shape]
    rfl
  | case3 depth word span rest plain =>
    obtain ⟨taken, m, shape, isAtom, stop⟩ := atom_sound found
    refine ⟨taken, m, shape, .atom isAtom ?_, stop⟩
    rintro other more rfl
    obtain ⟨same, _⟩ := List.cons.inj shape
    simp only [Prod.mk.injEq, Lexeme.word.injEq] at same
    exact plain same.1
  | case4 depth ls noWord =>
    obtain ⟨taken, m, shape, isAtom, stop⟩ := atom_sound found
    refine ⟨taken, m, shape, .atom isAtom ?_, stop⟩
    rintro other more rfl
    exact noWord _ _ _ shape

/-- What has been read before is a conjunction, and the chain goes on from it. -/
theorem andChain_sound {begin : Position} {left read : Read Condition}
    {before : List (Lexeme × Span)} {m : Scope → Bool}
    (found : r.andChain begin left = .ok read) (begins : begin = start before)
    (isLeft : IsConjunction before left.value m) (stop : left.stop = lastStop before) :
    ∃ taken n, left.rest = taken ++ read.rest ∧ IsConjunction (before ++ taken) read.value n ∧
      read.stop = lastStop (before ++ taken) := by
  fun_induction andChain r begin left generalizing before m with
  | case1 => cases found
  | case2 left word rest right isRight here ih =>
    obtain ⟨taken, n, shape, isUnary, ends⟩ := unary_sound isRight
    have last : right.stop = lastStop (before ++ (.word "and", word) :: taken) := by
      rw [ends, lastStop_after before _ (unary_ne_nil isUnary)]
    have whole : IsConjunction (before ++ (.word "and", word) :: taken)
        (.and left.value right.value ⟨begin, right.stop⟩) fun scope => m scope && n scope := by
      have phrase := IsConjunction.and word isLeft isUnary
      rw [extent, start_append (conjunction_ne_nil isLeft), ← begins, ← last] at phrase
      exact phrase
    have sameStart : begin = start (before ++ (.word "and", word) :: taken) := by
      rw [start_append (conjunction_ne_nil isLeft), begins]
    obtain ⟨more, k, restShape, isWhole, stopped⟩ := ih found sameStart whole last
    refine ⟨(.word "and", word) :: taken ++ more, k, ?_, ?_, ?_⟩
    · rw [here, shape, restShape]
      simp
    · rw [← List.append_assoc]
      exact isWhole
    · rw [← List.append_assoc]
      exact stopped
  | case3 | case4 =>
    obtain rfl := Except.ok.inj found
    refine ⟨[], m, rfl, ?_, ?_⟩
    · rw [List.append_nil]
      exact isLeft
    · rw [List.append_nil]
      exact stop

theorem conjunction_sound {ls : List (Lexeme × Span)} {read : Read Condition}
    (found : r.conjunction ls = .ok read) :
    ∃ taken m, ls = taken ++ read.rest ∧ IsConjunction taken read.value m ∧
      read.stop = lastStop taken := by
  obtain ⟨left, isLeft, found⟩ := bind_eq_ok.1 found
  obtain ⟨first, m, shape, isUnary, stop⟩ := unary_sound isLeft
  have begins : start ls = start first := by
    rw [shape, start_append (unary_ne_nil isUnary)]
  obtain ⟨later, n, restShape, isConjunction, last⟩ :=
    andChain_sound found begins (.one isUnary) stop
  refine ⟨first ++ later, n, ?_, isConjunction, last⟩
  rw [shape, restShape, List.append_assoc]

theorem orChain_sound {begin : Position} {left read : Read Condition}
    {before : List (Lexeme × Span)} {m : Scope → Bool}
    (found : r.orChain begin left = .ok read) (begins : begin = start before)
    (isLeft : IsDisjunction before left.value m) (stop : left.stop = lastStop before) :
    ∃ taken n, left.rest = taken ++ read.rest ∧ IsDisjunction (before ++ taken) read.value n ∧
      read.stop = lastStop (before ++ taken) := by
  fun_induction orChain r begin left generalizing before m with
  | case1 => cases found
  | case2 left word rest right isRight here ih =>
    obtain ⟨taken, n, shape, isConjunction, ends⟩ := conjunction_sound isRight
    have last : right.stop = lastStop (before ++ (.word "or", word) :: taken) := by
      rw [ends, lastStop_after before _ (conjunction_ne_nil isConjunction)]
    have whole : IsDisjunction (before ++ (.word "or", word) :: taken)
        (.or left.value right.value ⟨begin, right.stop⟩) fun scope => m scope || n scope := by
      have phrase := IsDisjunction.or word isLeft isConjunction
      rw [extent, start_append (disjunction_ne_nil isLeft), ← begins, ← last] at phrase
      exact phrase
    have sameStart : begin = start (before ++ (.word "or", word) :: taken) := by
      rw [start_append (disjunction_ne_nil isLeft), begins]
    obtain ⟨more, k, restShape, isWhole, stopped⟩ := ih found sameStart whole last
    refine ⟨(.word "or", word) :: taken ++ more, k, ?_, ?_, ?_⟩
    · rw [here, shape, restShape]
      simp
    · rw [← List.append_assoc]
      exact isWhole
    · rw [← List.append_assoc]
      exact stopped
  | case3 | case4 =>
    obtain rfl := Except.ok.inj found
    refine ⟨[], m, rfl, ?_, ?_⟩
    · rw [List.append_nil]
      exact isLeft
    · rw [List.append_nil]
      exact stop

theorem disjunction_sound {ls : List (Lexeme × Span)} {read : Read Condition}
    (found : r.disjunction ls = .ok read) :
    ∃ taken m, ls = taken ++ read.rest ∧ IsDisjunction taken read.value m ∧
      read.stop = lastStop taken := by
  obtain ⟨left, isLeft, found⟩ := bind_eq_ok.1 found
  obtain ⟨first, m, shape, isConjunction, stop⟩ := conjunction_sound isLeft
  have begins : start ls = start first := by
    rw [shape, start_append (conjunction_ne_nil isConjunction)]
  obtain ⟨later, n, restShape, isDisjunction, last⟩ :=
    orChain_sound found begins (.one isConjunction) stop
  refine ⟨first ++ later, n, ?_, isDisjunction, last⟩
  rw [shape, restShape, List.append_assoc]

theorem condition_sound {ls : List (Lexeme × Span)} {c : Condition}
    (found : r.condition ls = .ok c) : r.fault = none ∧ ∃ m, IsDisjunction ls c m := by
  simp only [condition] at found
  split at found
  · cases found
  obtain ⟨read, whole, found⟩ := bind_eq_ok.1 found
  obtain ⟨taken, m, shape, isDisjunction, _⟩ := disjunction_sound whole
  unfold complete at found
  split at found
  · cases found
  · cases found
  · rename_i rest fault
    obtain rfl := Except.ok.inj found
    rw [rest, List.append_nil] at shape
    exact ⟨fault, m, shape ▸ isDisjunction⟩

/-! Every phrase is taken whole. -/

theorem atom_complete {ls : List (Lexeme × Span)} {c : Condition} {m : Scope → Bool}
    (atom : IsAtom ls c m) {rest : List (Lexeme × Span)} (ends : EndsAtom rest) :
    r.atom (ls ++ rest) = .ok ⟨c, lastStop ls, rest⟩ := by
  cases atom with
  | truthy operand =>
    rw [Reading.atom, operand_complete operand ends.1, start_append (operand_ne_nil operand)]
    cases rest with
    | nil => rfl
    | cons l rest =>
      obtain ⟨l, span⟩ := l
      cases l with
      | compare op => exact absurd rfl (ends.2 _ rfl op)
      | _ => rfl
  | @compare ls o l v op operator span operand literal =>
    have shape : ls ++ [(.compare op, operator), (l, span)] ++ rest =
        ls ++ (.compare op, operator) :: (l, span) :: rest := by simp
    have closed : EndsOperand ((.compare op, operator) :: (l, span) :: rest) := by
      intro first member
      obtain rfl := Option.some.inj member
      simp
    have stop : lastStop (ls ++ [(.compare op, operator), (l, span)]) = span.stop := by
      simp [lastStop]
    rw [shape, Reading.atom, operand_complete operand closed, extent, stop,
      start_append (operand_ne_nil operand), start_append (operand_ne_nil operand)]
    simp only [bind, Except.bind, literal_iff.2 literal]
    rfl

theorem unary_eqWhen {depth : Nat} {ls : List (Lexeme × Span)} {c : Condition}
    {m : Scope → Bool} (unary : IsUnary ls c m) (room : depth ≤ r.limit)
    {rest : List (Lexeme × Span)} (ends : EndsAtom rest) :
    EqWhen (depth + c.negations ≤ r.limit) (r.unary depth (ls ++ rest))
      (.ok ⟨c, lastStop ls, rest⟩) := by
  induction unary generalizing depth with
  | @atom ls c m single plain =>
    have read := atom_complete (r := r) single ends
    have kept : depth + c.negations ≤ r.limit := by
      cases single <;> exact room
    have same : r.unary depth (ls ++ rest) = r.atom (ls ++ rest) := by
      cases ls with
      | nil => exact absurd rfl (atom_ne_nil single)
      | cons l ls =>
        obtain ⟨l, span⟩ := l
        cases l with
        | word word =>
          have other : word ≠ "not" := by
            rintro rfl
            exact plain span ls rfl
          rw [List.cons_append, Reading.unary, if_neg other]
        | _ => rfl
    rw [same, read]
    exact eqWhen_refl kept _
  | @not ls c m word inner ih =>
    obtain ⟨run, _⟩ := unary_run inner
    have stop := lastStop_after [] (.word "not", word) (unary_ne_nil inner)
    rw [List.nil_append] at stop
    have deeper : depth + (Condition.not c (extent ((.word "not", word) :: ls))).negations =
        depth + 1 + c.negations := by
      simp only [Condition.negations]
      omega
    rw [List.cons_append, Reading.unary, if_pos rfl, deeper, extent, stop]
    by_cases shallow : r.limit < depth + 1
    · rw [if_pos shallow]
      constructor
      · omega
      · intro broken
        exact ⟨_, rfl, rfl⟩
    · rw [if_neg shallow]
      exact eqWhen_bind (ih (by omega)) _

theorem conjunction_chains {ls : List (Lexeme × Span)} {c : Condition} {m : Scope → Bool}
    (conjunction : IsConjunction ls c m) (room : 0 < r.limit) {rest : List (Lexeme × Span)}
    (ends : EndsAtom rest) :
    EqWhen (c.negations < r.limit) (r.conjunction (ls ++ rest))
      (r.andChain (start ls) ⟨c, lastStop ls, rest⟩) := by
  induction conjunction generalizing rest with
  | @one ls c m only =>
    have first := unary_eqWhen (r := r) only room ends
    rw [Reading.conjunction, start_append (unary_ne_nil only)]
    exact eqWhen_of_iff (by omega) (eqWhen_bind first (r.andChain (start ls)))
  | @and ls ms c d m n word before last ih =>
    have stop := lastStop_after ls (.word "and", word) (unary_ne_nil last)
    have left := ih (endsAtom_word "and" word (ms ++ rest))
    have right := unary_eqWhen (r := r) last room ends
    rw [andChain_next r (start ls) rfl] at left
    have both := eqWhen_trans left fun _ => eqWhen_bind right _
    rw [List.append_assoc, List.cons_append, extent, stop, start_append (conjunction_ne_nil before)]
    refine eqWhen_of_iff ?_ both
    simp only [Condition.negations]
    omega

theorem conjunction_eqWhen {ls : List (Lexeme × Span)} {c : Condition} {m : Scope → Bool}
    (conjunction : IsConjunction ls c m) (room : 0 < r.limit) {rest : List (Lexeme × Span)}
    (ends : EndsAtom rest) (done : ∀ span more, rest ≠ (.word "and", span) :: more) :
    EqWhen (c.negations < r.limit) (r.conjunction (ls ++ rest))
      (.ok ⟨c, lastStop ls, rest⟩) := by
  have chained := conjunction_chains conjunction room ends
  rwa [andChain_done r _ done] at chained

theorem disjunction_chains {ls : List (Lexeme × Span)} {c : Condition} {m : Scope → Bool}
    (disjunction : IsDisjunction ls c m) (room : 0 < r.limit) {rest : List (Lexeme × Span)}
    (ends : EndsAtom rest) (done : ∀ span more, rest ≠ (.word "and", span) :: more) :
    EqWhen (c.negations < r.limit) (r.disjunction (ls ++ rest))
      (r.orChain (start ls) ⟨c, lastStop ls, rest⟩) := by
  induction disjunction generalizing rest with
  | @one ls c m only =>
    have first := conjunction_eqWhen only room ends done
    rw [Reading.disjunction, start_append (conjunction_ne_nil only)]
    exact eqWhen_bind first (r.orChain (start ls))
  | @or ls ms c d m n word before last ih =>
    have stop := lastStop_after ls (.word "or", word) (conjunction_ne_nil last)
    have noAnd : ∀ span more, (Lexeme.word "or", word) :: (ms ++ rest) ≠
        (.word "and", span) :: more := by
      intro span more same
      simp at same
    have left := ih (endsAtom_word "or" word (ms ++ rest)) noAnd
    have right := conjunction_eqWhen last room ends done
    rw [orChain_next r (start ls) rfl] at left
    have both := eqWhen_trans left fun _ => eqWhen_bind right _
    rw [List.append_assoc, List.cons_append, extent, stop, start_append (disjunction_ne_nil before)]
    refine eqWhen_of_iff ?_ both
    simp only [Condition.negations]
    omega

/-- A condition needs a level for itself and one for every `not` of its longest run. -/
theorem condition_eqWhen {ls : List (Lexeme × Span)} {c : Condition} {m : Scope → Bool}
    (disjunction : IsDisjunction ls c m) (clean : r.fault = none) :
    EqWhen (c.negations < r.limit) (r.condition ls) (.ok c) := by
  rw [condition]
  by_cases none : r.limit < 1
  · rw [if_pos none]
    constructor
    · omega
    · intro broken
      exact ⟨_, rfl, rfl⟩
  · have read := disjunction_chains (r := r) disjunction (by omega) endsAtom_nil (by simp)
    rw [List.append_nil, orChain_done r _ (by simp)] at read
    have whole := eqWhen_bind read r.complete
    have complete : (Except.ok ⟨c, lastStop ls, []⟩ >>= r.complete) = .ok c := by
      simp only [bind, Except.bind, Reading.complete, clean]
    rw [if_neg none]
    rwa [complete] at whole

theorem condition_complete {ls : List (Lexeme × Span)} {c : Condition} {m : Scope → Bool}
    (disjunction : IsDisjunction ls c m) (fits : ls.length ≤ r.limit) (clean : r.fault = none) :
    r.condition ls = .ok c :=
  (condition_eqWhen disjunction clean).same
    (Nat.lt_of_lt_of_le (disjunction_negations disjunction) fits)

end Reading

theorem disjunction_unique {ls : List (Lexeme × Span)} {c d : Condition} {m n : Scope → Bool}
    (first : IsDisjunction ls c m) (second : IsDisjunction ls d n) : c = d ∧ m = n := by
  let r : Reading := ⟨default, none, ls.length⟩
  have read : r.condition ls = .ok c := Reading.condition_complete first (Nat.le_refl _) rfl
  have other : r.condition ls = .ok d := Reading.condition_complete second (Nat.le_refl _) rfl
  rw [read] at other
  obtain rfl := Except.ok.inj other
  refine ⟨rfl, funext fun scope => ?_⟩
  rw [← disjunction_holds first scope, disjunction_holds second scope]

/-- Lexemes are read as a condition just when they are one by the grammar, with no fault after
them; they are one in a single way, and the condition holds when the grammar says so. A limit of as
many levels as there are lexemes is enough. -/
theorem condition_read_iff (r : Reading) (ls : List (Lexeme × Span)) (fits : ls.length ≤ r.limit) :
    (∀ c, r.condition ls = .ok c ↔ r.fault = none ∧ ∃ m, IsDisjunction ls c m) ∧
      (∀ c d m n, IsDisjunction ls c m → IsDisjunction ls d n → c = d ∧ m = n) ∧
      ∀ c m, IsDisjunction ls c m → ∀ scope, (c.holds scope).value = m scope := by
  refine ⟨fun c => ⟨Reading.condition_sound, ?_⟩, ?_, ?_⟩
  · rintro ⟨clean, m, disjunction⟩
    exact Reading.condition_complete disjunction fits clean
  · intro c d m n first second
    exact disjunction_unique first second
  · intro c m disjunction scope
    exact disjunction_holds disjunction scope

/-- The words of the grammar are paths, names and literals in other places:
`and = or and not or|and(not) or or`. -/
theorem condition_read_keywords :
    let word (w : String) : Lexeme × Span := (.word w, default)
    let mark (l : Lexeme) : Lexeme × Span := (l, default)
    let ls := [word "and", mark (.compare .eq), word "or", word "and", word "not", word "or",
      mark .pipe, word "and", mark .parenOpen, word "not", mark .parenClose, word "or", word "or"]
    let equal : Condition := .compare ⟨["and"], []⟩ .eq (literalOfWord "or") default
    let called : Operand := ⟨["or"], [⟨.ofString "and", [literalOfWord "not"]⟩]⟩
    let negated : Condition := .not (.truthy called default) default
    let c : Condition :=
      .or (.and equal negated default) (.truthy ⟨["or"], []⟩ default) default
    ls.length ≤ 13 ∧ (⟨default, none, 13⟩ : Reading).condition ls = .ok c ∧
      ∀ scope, (c.holds scope).value =
        ((equal.holds scope).value && !(called.evaluate scope).value.isTruthy ||
          ((⟨["or"], []⟩ : Operand).evaluate scope).value.isTruthy) := by
  intro word mark ls equal called negated c
  have path : ∀ w, (splitAtChar '.' w.toList).all isSegment = true →
      IsPath w ((splitAtChar '.' w.toList).map String.ofList) := by
    intro w valid
    exact isPath_iff.2 ⟨valid, rfl⟩
  have andPath : IsPath "and" ["and"] := path "and" (by decide)
  have orPath : IsPath "or" ["or"] := path "or" (by decide)
  have isEqual : IsAtom ([word "and"] ++ [mark (.compare .eq), word "or"]) equal _ :=
    .compare .eq default default (.mk default andPath .none) (.word "or")
  have isCall : IsCall (word "and" :: mark .parenOpen :: ([word "not"] ++ [mark .parenClose]))
      ⟨.ofString "and", [literalOfWord "not"]⟩ :=
    .applied "and" default default default (.some default (.word "not") .done)
  have isCalled : IsAtom (word "or" :: mark .pipe :: (_ ++ [])) (.truthy called default) _ :=
    .truthy (.mk default orPath (.more default isCall .none))
  have isNegated : IsUnary (word "not" :: _) negated _ :=
    .not default (.atom isCalled (by simp [word]))
  have left : IsConjunction (_ ++ word "and" :: _) (.and equal negated default) _ :=
    .and default (.one (.atom isEqual (by simp [word]))) isNegated
  have right : IsConjunction [word "or"] (.truthy ⟨["or"], []⟩ default) _ :=
    .one (.atom (.truthy (.mk default orPath .none)) (by simp [word]))
  have whole : IsDisjunction ls c _ := .or default (.one left) right
  have fits : ls.length ≤ 13 := by decide
  obtain ⟨read, _, meaning⟩ := condition_read_iff ⟨default, none, 13⟩ ls fits
  exact ⟨fits, (read c).2 ⟨rfl, _, whole⟩, meaning c _ whole⟩

end TitleTemplate
