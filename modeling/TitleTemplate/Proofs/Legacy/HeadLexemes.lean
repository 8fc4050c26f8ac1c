import TitleTemplate.Proofs.Legacy.Heads

/-!
The lexemes of what is written for a head: a word for the path, a pipe and a word for each step with
its arguments in parentheses, and what the check adds before and after them.
-/
namespace TitleTemplate.Legacy

def literalLexeme (text : List Char) : Lexeme :=
  if (literalOfWord (String.ofList text)).isNumber then .word (String.ofList text)
  else quotedLexeme text

theorem plainLexed_literal {text tail : List Char} (ends : EndsWord tail) :
    plainLexed (literalText text ++ tail) = (plainLexed tail).put (literalLexeme text) := by
  rw [literalText, literalLexeme]
  split
  · rename_i number
    obtain ⟨some, word⟩ := word_of_number number
    exact plainLexed_word some word ends
  · exact plainLexed_quote text tail

theorem enclosed_literal (text : List Char) : Enclosed (literalText text) := by
  rw [literalText]
  split
  · rename_i number
    exact enclosed_word (word_of_number number).2
  · exact enclosed_quote text

def Argument.lexeme : Argument → Lexeme
  | .quoted text => quotedLexeme text
  | .bare text => literalLexeme text

theorem plainLexed_argument (a : Argument) {tail : List Char} (ends : EndsWord tail) :
    plainLexed (a.write ++ tail) = (plainLexed tail).put a.lexeme := by
  cases a with
  | quoted text => exact plainLexed_quote text tail
  | bare text => exact plainLexed_literal ends

theorem enclosed_argument (a : Argument) : Enclosed a.write := by
  cases a with
  | quoted text => exact enclosed_quote text
  | bare text => exact enclosed_literal text

def lexemesAfter : List Argument → List Lexeme
  | [] => [.parenClose]
  | a :: as => .comma :: a.lexeme :: lexemesAfter as

def argumentLexemes : List Argument → List Lexeme
  | [] => [.parenClose]
  | a :: as => a.lexeme :: lexemesAfter as

theorem plainLexed_arguments (as : List Argument) (tail : List Char) :
    plainLexed (", ".toList.intercalate (as.map Argument.write) ++ ')' :: tail) =
      Lexed.putAll (argumentLexemes as) (plainLexed tail) := by
  cases as with
  | nil => exact plainLexed_parenClose tail
  | cons a as =>
    induction as generalizing a with
    | nil =>
      rw [List.map_singleton, List.intercalate_singleton,
        plainLexed_argument a (endsWord_cons (by decide) tail), plainLexed_parenClose]
      rfl
    | cons b as ih =>
      have shape : ", ".toList.intercalate ((a :: b :: as).map Argument.write) ++ ')' :: tail =
          a.write ++ ',' :: ' ' ::
            (", ".toList.intercalate ((b :: as).map Argument.write) ++ ')' :: tail) := by
        simp [List.intercalate]
      rw [shape, plainLexed_argument a (endsWord_cons (by decide) _), plainLexed_comma,
        plainLexed_skip (by decide), ih b]
      rfl

theorem enclosed_arguments (as : List Argument) :
    Enclosed (", ".toList.intercalate (as.map Argument.write)) := by
  induction as with
  | nil => exact enclosed_nil
  | cons a as ih =>
    cases as with
    | nil =>
      rw [List.map_singleton, List.intercalate_singleton]
      exact enclosed_argument a
    | cons b as =>
      have shape : ", ".toList.intercalate ((a :: b :: as).map Argument.write) =
          a.write ++ (", ".toList ++ ", ".toList.intercalate ((b :: as).map Argument.write)) := by
        simp [List.intercalate]
      rw [shape]
      exact enclosed_append (enclosed_argument a)
        (enclosed_append (enclosed_of_all (by decide)) ih)

def Step.lexemes (s : Step) : List Lexeme :=
  .pipe :: .word (String.ofList s.name) :: match s.arguments with
    | none => []
    | some as => .parenOpen :: argumentLexemes as

theorem plainLexed_step {s : Step} (named : s.Named) {tail : List Char} (ends : EndsWord tail) :
    plainLexed (s.write ++ tail) = Lexed.putAll s.lexemes (plainLexed tail) := by
  have word : ∀ c ∈ s.name, isWordChar c = true := fun c member =>
    isWordChar_of_step (named.2 c member)
  cases given : s.arguments with
  | none =>
    have shape : s.write ++ tail = '|' :: (s.name ++ tail) := by
      simp [Step.write, given]
    rw [shape, plainLexed_pipe, plainLexed_word named.1 word ends, Step.lexemes, given]
    rfl
  | some as =>
    have shape : s.write ++ tail =
        '|' :: (s.name ++ '(' :: (", ".toList.intercalate (as.map Argument.write) ++
          ')' :: tail)) := by
      simp [Step.write, given]
    rw [shape, plainLexed_pipe, plainLexed_word named.1 word (endsWord_cons (by decide) _),
      plainLexed_parenOpen, plainLexed_arguments, Step.lexemes, given]
    rfl

theorem enclosed_step {s : Step} (named : s.Named) : Enclosed s.write := by
  have word : Enclosed s.name := enclosed_word fun c member =>
    isWordChar_of_step (named.2 c member)
  have pipe : Enclosed ['|'] := enclosed_char (by decide) (by decide)
  cases given : s.arguments with
  | none =>
    have shape : s.write = ['|'] ++ s.name := by simp [Step.write, given]
    rw [shape]
    exact enclosed_append pipe word
  | some as =>
    have shape : s.write = ['|'] ++ (s.name ++ (['('] ++
        (", ".toList.intercalate (as.map Argument.write) ++ [')']))) := by
      simp [Step.write, given]
    rw [shape]
    exact enclosed_append pipe (enclosed_append word
      (enclosed_append (enclosed_char (by decide) (by decide))
        (enclosed_append (enclosed_arguments as) (enclosed_char (by decide) (by decide)))))

theorem endsWord_steps (ss : List Step) {tail : List Char} (ends : EndsWord tail) :
    EndsWord (ss.flatMap Step.write ++ tail) := by
  cases ss with
  | nil => exact ends
  | cons s ss => exact endsWord_cons (by decide) _

theorem plainLexed_steps {ss : List Step} (named : ∀ s ∈ ss, s.Named) {tail : List Char}
    (ends : EndsWord tail) :
    plainLexed (ss.flatMap Step.write ++ tail) =
      Lexed.putAll (ss.flatMap Step.lexemes) (plainLexed tail) := by
  induction ss with
  | nil => rfl
  | cons s ss ih =>
    have later := ih fun t member => named t (List.mem_cons_of_mem s member)
    rw [List.flatMap_cons, List.flatMap_cons, List.append_assoc,
      plainLexed_step (named s List.mem_cons_self) (endsWord_steps ss ends), later, putAll_append]

def Head.operandLexemes (h : Head) : List Lexeme :=
  .word (String.ofList h.path) :: h.steps.flatMap Step.lexemes

theorem plainLexed_operand {h : Head} (written : h.Written) {tail : List Char}
    (ends : EndsWord tail) :
    plainLexed (h.operand ++ tail) = Lexed.putAll h.operandLexemes (plainLexed tail) := by
  obtain ⟨some, word⟩ := path_word written
  rw [Head.operand, List.append_assoc, plainLexed_word some word (endsWord_steps h.steps ends),
    plainLexed_steps written.steps ends]
  rfl

theorem enclosed_operand {h : Head} (written : h.Written) : Enclosed h.operand :=
  enclosed_append (enclosed_word (path_word written).2)
    (enclosed_flatMap fun s member => enclosed_step (written.steps s member))

def Head.lexemes (h : Head) : List Lexeme :=
  match h.check with
  | none | some .truthy => h.operandLexemes
  | some .falsy => .word "not" :: h.operandLexemes
  | some (.compare op literal) => h.operandLexemes ++ [.compare op, literalLexeme literal]

theorem plainLexed_condition {h : Head} (written : h.Written) :
    plainLexed h.condition = Lexed.putAll h.lexemes ⟨[], none, default⟩ := by
  have plain : plainLexed h.operand = Lexed.putAll h.operandLexemes ⟨[], none, default⟩ := by
    rw [← List.append_nil h.operand, plainLexed_operand written endsWord_nil, plainLexed_nil]
  cases asked : h.check with
  | none => simpa only [Head.condition, Head.lexemes, asked] using plain
  | some check =>
    cases check with
    | truthy => simpa only [Head.condition, Head.lexemes, asked] using plain
    | falsy =>
      simp only [Head.condition, Head.lexemes, asked]
      have shape : "not ".toList ++ h.operand = "not".toList ++ ' ' :: h.operand := rfl
      have word : ∀ c ∈ "not".toList, isWordChar c = true := List.all_eq_true.1 (by decide)
      rw [shape, plainLexed_word (by decide) word (endsWord_cons (by decide) _),
        plainLexed_skip (by decide), plain]
      rfl
    | compare op literal =>
      simp only [Head.condition, Head.lexemes, asked]
      have last : plainLexed (literalText literal) =
          (Lexed.mk [] none default).put (literalLexeme literal) := by
        rw [← List.append_nil (literalText literal), plainLexed_literal endsWord_nil,
          plainLexed_nil]
      rw [plainLexed_operand written (endsWord_cons (by decide) _), plainLexed_skip (by decide),
        plainLexed_compare, last, putAll_append]
      rfl

theorem enclosed_condition {h : Head} (written : h.Written) : Enclosed h.condition := by
  have operand := enclosed_operand written
  unfold Head.condition
  split
  · exact operand
  · exact operand
  · exact enclosed_append (enclosed_of_all (by decide)) operand
  · rename_i op literal _
    have shape : ' ' :: (op.symbol.toList ++ ' ' :: literalText literal) =
        [' '] ++ (op.symbol.toList ++ ([' '] ++ literalText literal)) := rfl
    have symbol : Enclosed op.symbol.toList := enclosed_of_all (by cases op <;> decide)
    have blank : Enclosed [' '] := enclosed_char (by decide) (by decide)
    rw [shape]
    exact enclosed_append operand (enclosed_append blank (enclosed_append symbol
      (enclosed_append blank (enclosed_literal literal))))

end TitleTemplate.Legacy
