import TitleTemplate.Proofs.Legacy.HeadLexemes
import TitleTemplate.Proofs.Template.Conditions

/-!
Reading back what is written for a head. Its lexemes are the operand and the condition that the head
means, by the grammar. Only a path `not` is taken for the keyword where a condition begins, and
cannot be read there.
-/
namespace TitleTemplate.Legacy

theorem literalLexeme_isLiteral (text : List Char) :
    IsLiteral (literalLexeme text) (literalValue text) := by
  rw [literalLexeme, literalValue]
  split
  · exact .word _
  · exact .text _ _

theorem argument_isLiteral (a : Argument) : IsLiteral a.lexeme a.value := by
  cases a with
  | quoted text => exact .text _ _
  | bare text => exact literalLexeme_isLiteral text

theorem later_arguments (as : List Argument) :
    ∃ ls, unplaced (lexemesAfter as) = ls ++ [(.parenClose, default)] ∧
      MoreLiterals ls (as.map Argument.value) := by
  induction as with
  | nil => exact ⟨[], rfl, .done⟩
  | cons a as ih =>
    obtain ⟨ls, shape, later⟩ := ih
    refine ⟨(.comma, default) :: (a.lexeme, default) :: ls, ?_,
      .more default default (argument_isLiteral a) later⟩
    rw [List.cons_append, List.cons_append, ← shape]
    rfl

theorem arguments_areArguments (as : List Argument) :
    ∃ ls, unplaced (argumentLexemes as) = ls ++ [(.parenClose, default)] ∧
      AreArguments ls (as.map Argument.value) := by
  cases as with
  | nil => exact ⟨[], rfl, .none⟩
  | cons a as =>
    obtain ⟨ls, shape, later⟩ := later_arguments as
    refine ⟨(a.lexeme, default) :: ls, ?_, .some default (argument_isLiteral a) later⟩
    rw [List.cons_append, ← shape]
    rfl

theorem step_isCall (s : Step) : IsCall (unplaced (s.lexemes.drop 1)) s.call := by
  cases given : s.arguments with
  | none =>
    rw [Step.lexemes, Step.call, given]
    exact .bare (String.ofList s.name) default
  | some as =>
    obtain ⟨ls, shape, arguments⟩ := arguments_areArguments as
    have lexemes : unplaced (s.lexemes.drop 1) = (.word (String.ofList s.name), default) ::
        (.parenOpen, default) :: (ls ++ [(.parenClose, default)]) := by
      rw [← shape, Step.lexemes, given]
      rfl
    rw [lexemes, Step.call, given]
    exact .applied (String.ofList s.name) default default default arguments

theorem steps_areCalls (ss : List Step) :
    AreCalls (unplaced (ss.flatMap Step.lexemes)) (ss.map Step.call) := by
  induction ss with
  | nil => exact .none
  | cons s ss ih =>
    have shape : unplaced ((s :: ss).flatMap Step.lexemes) =
        (.pipe, default) ::
          (unplaced (s.lexemes.drop 1) ++ unplaced (ss.flatMap Step.lexemes)) := by
      simp [Step.lexemes, unplaced]
    rw [shape]
    exact .more default (step_isCall s) ih

theorem head_isOperand {h : Head} (written : h.Written) :
    IsOperand (unplaced h.operandLexemes) h.target := by
  have path : IsPath (String.ofList h.path) ((splitAtChar '.' h.path).map String.ofList) := by
    rw [isPath_iff, String.toList_ofList]
    exact ⟨written.path, rfl⟩
  exact .mk default path (steps_areCalls h.steps)

theorem output_read (r : Reading) {h : Head} (written : h.Written) (noFault : r.fault = none) :
    r.output (unplaced h.operandLexemes) = .ok h.target :=
  Reading.output_iff.2 ⟨noFault, head_isOperand written⟩

theorem lastStop_unplaced (ls : List Lexeme) : lastStop (unplaced ls) = default := by
  rw [lastStop, unplaced, List.getLast?_map, Option.map_map]
  cases ls.getLast? <;> rfl

theorem extent_unplaced (ls : List Lexeme) : extent (unplaced ls) = default := by
  have first : Reading.start (unplaced ls) = default := by
    cases ls <;> rfl
  rw [extent, first, lastStop_unplaced]
  rfl

theorem truthy_read (r : Reading) {h : Head} (written : h.Written) :
    r.atom (unplaced h.operandLexemes) = .ok ⟨.truthy h.target default, default, []⟩ := by
  have read := Reading.atom_complete (r := r) (.truthy (head_isOperand written)) endsAtom_nil
  rw [List.append_nil, extent_unplaced, lastStop_unplaced] at read
  exact read

theorem compare_read (r : Reading) {h : Head} (written : h.Written) (op : Comparison)
    (literal : List Char) :
    r.atom (unplaced (h.operandLexemes ++ [.compare op, literalLexeme literal])) =
      .ok ⟨.compare h.target op (literalValue literal) default, default, []⟩ := by
  have shape : unplaced (h.operandLexemes ++ [.compare op, literalLexeme literal]) =
      unplaced h.operandLexemes ++
        [(.compare op, default), (literalLexeme literal, default)] := by
    simp [unplaced]
  have read := Reading.atom_complete (r := r) (.compare op default default (head_isOperand written)
    (literalLexeme_isLiteral literal)) endsAtom_nil
  rw [List.append_nil, ← shape, extent_unplaced, lastStop_unplaced] at read
  exact read

theorem unary_read (r : Reading) (depth : Nat) {h : Head} (other : h.path ≠ "not".toList)
    (rest : List Lexeme) :
    r.unary depth (unplaced (h.operandLexemes ++ rest)) =
      r.atom (unplaced (h.operandLexemes ++ rest)) := by
  have shape : unplaced (h.operandLexemes ++ rest) =
      (.word (String.ofList h.path), default) ::
        unplaced (h.steps.flatMap Step.lexemes ++ rest) := rfl
  have noKeyword : String.ofList h.path ≠ "not" := by
    intro same
    apply other
    rw [← same, String.toList_ofList]
  rw [shape, Reading.unary, if_neg noKeyword]

theorem head_read (r : Reading) {h : Head} (written : h.Written)
    (other : h.path ≠ "not".toList) (room : 2 ≤ r.limit) :
    r.unary 1 (unplaced h.lexemes) = .ok ⟨h.guard, default, []⟩ := by
  have plain : ∀ depth, r.unary depth (unplaced h.operandLexemes) =
      .ok ⟨.truthy h.target default, default, []⟩ := by
    intro depth
    have same := unary_read r depth other []
    rw [List.append_nil] at same
    rw [same, truthy_read r written]
  cases asked : h.check with
  | none => simpa only [Head.lexemes, Head.guard, asked] using plain 1
  | some check =>
    cases check with
    | truthy => simpa only [Head.lexemes, Head.guard, asked] using plain 1
    | falsy =>
      have shallow : ¬ r.limit < 2 := by omega
      simp only [Head.lexemes, Head.guard, asked, unplaced, List.map_cons, Reading.unary,
        ↓reduceIte, if_neg shallow]
      rw [← unplaced, plain 2]
      rfl
    | compare op literal =>
      simp only [Head.lexemes, Head.guard, asked]
      rw [unary_read r 1 other, compare_read r written]

theorem condition_read (r : Reading) {h : Head} (written : h.Written)
    (other : h.path ≠ "not".toList) (room : 2 ≤ r.limit) (noFault : r.fault = none) :
    r.condition (unplaced h.lexemes) = .ok h.guard := by
  have noAnd : r.andChain (Reading.start (unplaced h.lexemes)) ⟨h.guard, default, []⟩ =
      .ok ⟨h.guard, default, []⟩ := Reading.andChain_done r _ (by simp)
  have noOr : r.orChain (Reading.start (unplaced h.lexemes)) ⟨h.guard, default, []⟩ =
      .ok ⟨h.guard, default, []⟩ := Reading.orChain_done r _ (by simp)
  have shallow : ¬ r.limit < 1 := by omega
  simp only [Reading.condition, if_neg shallow, Reading.disjunction, Reading.conjunction,
    head_read r written other room, bind, Except.bind, noAnd, noOr, Reading.complete, noFault]

theorem atom_unread (r : Reading) {ls : List (Lexeme × Span)}
    (noWord : ∀ word span rest, ls ≠ (.word word, span) :: rest) :
    ∃ fault, r.atom ls = .error fault := by
  cases ls with
  | nil => exact ⟨_, rfl⟩
  | cons l ls =>
    obtain ⟨lexeme, span⟩ := l
    cases lexeme with
    | word word => exact absurd rfl (noWord word span ls)
    | _ => exact ⟨_, rfl⟩

theorem unary_unread (r : Reading) (depth : Nat) {ls : List (Lexeme × Span)}
    (noWord : ∀ word span rest, ls ≠ (.word word, span) :: rest) :
    ∃ fault, r.unary depth ls = .error fault := by
  rw [Reading.unary]
  · exact atom_unread r noWord
  · exact noWord

theorem not_unread (r : Reading) (depth : Nat) {ls : List (Lexeme × Span)}
    (unread : ∀ depth, ∃ fault, r.unary depth ls = .error fault) :
    ∃ fault, r.unary depth ((.word "not", default) :: ls) = .error fault := by
  rw [Reading.unary, if_pos rfl]
  split
  · exact ⟨_, rfl⟩
  · obtain ⟨fault, failed⟩ := unread (depth + 1)
    rw [failed]
    exact ⟨fault, rfl⟩

theorem steps_no_word (ss : List Step) {rest : List Lexeme}
    (noWord : ∀ word, rest.head? ≠ some (.word word)) (word : String) (span : Span)
    (more : List (Lexeme × Span)) :
    unplaced (ss.flatMap Step.lexemes ++ rest) ≠ (.word word, span) :: more := by
  intro same
  cases ss with
  | nil =>
    cases rest with
    | nil => cases same
    | cons l rest =>
      obtain ⟨rfl, _⟩ := Prod.mk.inj (List.cons.inj same).1
      exact noWord word rfl
  | cons s ss => cases same

theorem head_unread (r : Reading) {h : Head} (keyword : h.path = "not".toList) :
    ∃ fault, r.unary 1 (unplaced h.lexemes) = .error fault := by
  have path : String.ofList h.path = "not" := by
    rw [keyword]
    rfl
  have after : ∀ rest : List Lexeme, (∀ word, rest.head? ≠ some (.word word)) → ∀ depth,
      ∃ fault, r.unary depth (unplaced (h.operandLexemes ++ rest)) = .error fault := by
    intro rest noWord depth
    have shape : unplaced (h.operandLexemes ++ rest) =
        (.word "not", default) :: unplaced (h.steps.flatMap Step.lexemes ++ rest) := by
      simp [unplaced, Head.operandLexemes, path]
    rw [shape]
    exact not_unread r depth fun depth =>
      unary_unread r depth (steps_no_word h.steps noWord)
  have plain : ∀ depth, ∃ fault, r.unary depth (unplaced h.operandLexemes) = .error fault := by
    intro depth
    have unread := after [] (by simp) depth
    rwa [List.append_nil] at unread
  cases asked : h.check with
  | none => simpa only [Head.lexemes, asked] using plain 1
  | some check =>
    cases check with
    | truthy => simpa only [Head.lexemes, asked] using plain 1
    | falsy =>
      simp only [Head.lexemes, asked]
      exact not_unread r 1 plain
    | compare op literal =>
      simp only [Head.lexemes, asked]
      exact after _ (by simp) 1

theorem condition_unread (r : Reading) {h : Head} (keyword : h.path = "not".toList) :
    ∃ fault, r.condition (unplaced h.lexemes) = .error fault := by
  obtain ⟨fault, failed⟩ := head_unread r keyword
  by_cases shallow : r.limit < 1
  · exact ⟨_, by rw [Reading.condition, if_pos shallow]; rfl⟩
  · refine ⟨fault, ?_⟩
    simp only [Reading.condition, if_neg shallow, Reading.disjunction, Reading.conjunction, failed,
      bind, Except.bind]

end TitleTemplate.Legacy
