import TitleTemplate.Proofs.Legacy.Places
import TitleTemplate.Proofs.Text.Blanks

/-!
The grammar of arguments:

  arguments := [argument (',' argument)*]
  argument  := quoted | bare

with white space around every argument. A quoted text stands between two quotes of one kind, and a
backslash in it stands for the character after it. A bare text begins with no quote, has white space
at neither end, and holds no character that would end it. The reader of arguments takes what is
written so, and it takes all of it.
-/
namespace TitleTemplate.Legacy

/-- What is written between two quotes for a text. -/
inductive WritesBody (quote : Char) : List Char → List Char → Prop
  | done : WritesBody quote [] []
  | escaped {written text : List Char} (c : Char) (later : WritesBody quote written text) :
      WritesBody quote ('\\' :: c :: written) (c :: text)
  | plain {c : Char} {written text : List Char} (noEscape : c ≠ '\\') (noEnd : c ≠ quote)
      (later : WritesBody quote written text) : WritesBody quote (c :: written) (c :: text)

inductive WritesQuoted : List Char → List Char → Prop
  | mk {quote : Char} {body text : List Char} (opens : quote = '"' ∨ quote = '\'')
      (inside : WritesBody quote body text) : WritesQuoted (quote :: (body ++ [quote])) text

/-- A text that can stand without quotes before the characters that would end it. -/
structure IsBare (stops text : List Char) : Prop where
  some : text ≠ []
  goesOn : ∀ c ∈ text, c ∉ stops
  first : ∀ c ∈ text.head?, isBlank c = false
  last : ∀ c ∈ text.getLast?, isBlank c = false

def NoQuote (cs : List Char) : Prop := ∀ c ∈ cs.head?, c ≠ '"' ∧ c ≠ '\''

inductive WritesArgument : List Char → Argument → Prop
  | quoted {written text : List Char} (quoted : WritesQuoted written text) :
      WritesArgument written (.quoted text)
  | bare {text : List Char} (bare : IsBare [',', ')', '\x7b'] text) (noQuote : NoQuote text) :
      WritesArgument text (.bare text)

/-- What is written between parentheses for arguments. -/
inductive WritesArguments : List Char → List Argument → Prop
  | none {blanks : List Char} (blank : AllBlank blanks) : WritesArguments blanks []
  | last {before written after : List Char} {a : Argument} (blankBefore : AllBlank before)
      (first : WritesArgument written a) (blankAfter : AllBlank after) :
      WritesArguments (before ++ (written ++ after)) [a]
  | more {before written after rest : List Char} {a b : Argument} {as : List Argument}
      (blankBefore : AllBlank before) (first : WritesArgument written a)
      (blankAfter : AllBlank after) (later : WritesArguments rest (b :: as)) :
      WritesArguments (before ++ (written ++ (after ++ ',' :: rest))) (a :: b :: as)

section
variable {cs text rest : List Char}

theorem bareText_sound {stops : List Char}
    (read : bareText (fun c => decide (c ∈ stops)) cs = some (text, rest)) :
    ∃ before after, cs = before ++ (text ++ (after ++ rest)) ∧ AllBlank before ∧ AllBlank after ∧
      IsBare stops text := by
  simp only [bareText] at read
  split at read
  · cases read
  · rename_i kept
    obtain ⟨rfl, rfl⟩ := Prod.mk.inj (Option.some.inj read)
    obtain ⟨before, after, whole, blankBefore, blankAfter, first, last⟩ :=
      trimBlanks_split (cs.takeWhile fun c => !decide (c ∈ stops))
    refine ⟨before, after, ?_, blankBefore, blankAfter, (not_or.1 kept).1, fun c member => ?_,
      first, last⟩
    · rw [← List.append_assoc, ← List.append_assoc, List.append_assoc before, ← whole,
        List.takeWhile_append_dropWhile]
    · have within : c ∈ cs.takeWhile fun c => !decide (c ∈ stops) := by
        rw [whole]
        exact List.mem_append_right _ (List.mem_append_left _ member)
      simpa using List.mem_takeWhile_imp within

theorem bareText_complete {stops before after : List Char} {c : Char} (bare : IsBare stops text)
    (blankBefore : AllBlank before) (blankAfter : AllBlank after)
    (visible : ∀ d ∈ stops, (!isBlank d) = true) (ends : c ∈ stops) (noOpen : c ≠ '\x7b')
    (rest : List Char) :
    bareText (fun c => decide (c ∈ stops)) (before ++ (text ++ (after ++ c :: rest))) =
      some (text, c :: rest) := by
  have goesOn : ∀ d ∈ before ++ (text ++ after), (!decide (d ∈ stops)) = true := by
    intro d member
    have apart : d ∉ stops := by
      intro stop
      simp only [List.mem_append] at member
      rcases member with blank | inside | blank
      · exact absurd (blankBefore d blank) (by simpa using visible d stop)
      · exact bare.goesOn d inside stop
      · exact absurd (blankAfter d blank) (by simpa using visible d stop)
    simpa using apart
  have shape : before ++ (text ++ (after ++ c :: rest)) =
      (before ++ (text ++ after)) ++ c :: rest := by simp
  have stop : ∀ d ∈ (c :: rest).head?, (!decide (d ∈ stops)) = false := by
    rintro d ⟨⟩
    simpa using ends
  obtain ⟨taken, left⟩ := while_taken goesOn stop
  rw [shape, bareText, taken, left,
    trimBlanks_around blankBefore blankAfter bare.first bare.last bare.some]
  exact if_neg (by simp [bare.some, noOpen])

theorem quotedText_sound {quote : Char} (read : quotedText quote cs = some (text, rest)) :
    ∃ body, cs = body ++ quote :: rest ∧ WritesBody quote body text := by
  fun_induction quotedText quote cs generalizing text rest with
  | case1 | case3 => cases read
  | case2 c cs ih =>
    obtain ⟨⟨a, b⟩, found, same⟩ := Option.map_eq_some_iff.1 read
    obtain ⟨rfl, rfl⟩ := Prod.mk.inj same
    obtain ⟨body, rfl, inside⟩ := ih found
    exact ⟨'\\' :: c :: body, rfl, .escaped c inside⟩
  | case4 cs _ =>
    obtain ⟨rfl, rfl⟩ := Prod.mk.inj (Option.some.inj read)
    exact ⟨[], rfl, .done⟩
  | case5 c cs pair single noEnd ih =>
    obtain ⟨⟨a, b⟩, found, same⟩ := Option.map_eq_some_iff.1 read
    obtain ⟨rfl, rfl⟩ := Prod.mk.inj same
    obtain ⟨body, rfl, inside⟩ := ih found
    have noEscape : c ≠ '\\' := by
      rintro rfl
      cases shape : body ++ quote :: b with
      | nil => simp at shape
      | cons d tail => exact pair d tail rfl shape
    exact ⟨c :: body, rfl, .plain noEscape noEnd inside⟩

theorem quotedText_complete {quote : Char} {body : List Char} (noEscape : quote ≠ '\\')
    (inside : WritesBody quote body text) (rest : List Char) :
    quotedText quote (body ++ quote :: rest) = some (text, rest) := by
  induction inside with
  | done =>
    rw [List.nil_append, quotedText]
    · exact if_pos rfl
    · exact fun _ _ same _ => noEscape same
    · exact fun same _ => noEscape same
  | escaped c _ ih =>
    rw [List.cons_append, List.cons_append, quotedText, ih]
    rfl
  | plain plain noEnd _ ih =>
    rw [List.cons_append, quotedText, if_neg noEnd, ih]
    · rfl
    · exact fun _ _ same _ => plain same
    · exact fun same _ => plain same

theorem quote_of_opens {quote : Char} (opens : quote = '"' ∨ quote = '\'') :
    isQuote quote = true ∧ quote ≠ '\\' ∧ isBlank quote = false := by
  rcases opens with rfl | rfl <;> decide

theorem noQuote_iff {c : Char} : isQuote c = false ↔ c ≠ '"' ∧ c ≠ '\'' := by
  simp [isQuote]

theorem quoted_shape {written : List Char} (quoted : WritesQuoted written text) :
    ∃ quote body, written = quote :: (body ++ [quote]) ∧ isQuote quote = true ∧
      isBlank quote = false ∧
      ∀ rest, quotedText quote (body ++ quote :: rest) = some (text, rest) := by
  obtain ⟨opens, inside⟩ := quoted
  obtain ⟨quotes, noEscape, visible⟩ := quote_of_opens opens
  exact ⟨_, _, rfl, quotes, visible, quotedText_complete noEscape inside⟩

theorem quoted_of_read {quote : Char} (opens : isQuote quote = true)
    (read : quotedText quote cs = some (text, rest)) :
    ∃ written, quote :: cs = written ++ rest ∧ WritesQuoted written text := by
  obtain ⟨body, rfl, inside⟩ := quotedText_sound read
  have quotes : quote = '"' ∨ quote = '\'' := by simpa [isQuote] using opens
  exact ⟨quote :: (body ++ [quote]), by simp, .mk quotes inside⟩

theorem readArgument_sound {a : Argument} (first : ∀ c ∈ cs.head?, isBlank c = false)
    (read : readArgument cs = some (a, rest)) :
    ∃ written after, cs = written ++ (after ++ rest) ∧ AllBlank after ∧
      WritesArgument written a := by
  cases cs with
  | nil => cases read
  | cons c cs =>
    rw [readArgument] at read
    split at read
    · rename_i opens
      obtain ⟨⟨text, tail⟩, found, same⟩ := Option.map_eq_some_iff.1 read
      obtain ⟨rfl, rfl⟩ := Prod.mk.inj same
      obtain ⟨written, shape, quoted⟩ := quoted_of_read opens found
      exact ⟨written, [], shape, by simp [AllBlank], .quoted quoted⟩
    · rename_i plain
      obtain ⟨⟨text, tail⟩, found, same⟩ := Option.map_eq_some_iff.1 read
      obtain ⟨rfl, rfl⟩ := Prod.mk.inj same
      obtain ⟨before, after, shape, blankBefore, blankAfter, bare⟩ := bareText_sound found
      have nothing : before = [] := by
        cases before with
        | nil => rfl
        | cons d before =>
          obtain ⟨rfl, -⟩ := List.cons.inj shape
          have blank := blankBefore c List.mem_cons_self
          rw [first c rfl] at blank
          cases blank
      subst nothing
      have noQuote : NoQuote text := by
        intro d front
        cases text with
        | nil => cases front
        | cons e text =>
          obtain rfl := Option.some.inj front
          obtain ⟨rfl, -⟩ := List.cons.inj shape
          exact noQuote_iff.1 (Bool.eq_false_iff.2 plain)
      exact ⟨text, after, shape, blankAfter, .bare bare noQuote⟩

theorem readArgument_complete {written after : List Char} {a : Argument} {c : Char}
    (argument : WritesArgument written a) (blank : AllBlank after) (ends : c = ',' ∨ c = ')')
    (rest : List Char) :
    ∃ left, readArgument (written ++ (after ++ c :: rest)) = some (a, left) ∧
      skipBlanks left = c :: rest := by
  have visible : isBlank c = false := by rcases ends with rfl | rfl <;> decide
  have skipped : skipBlanks (after ++ c :: rest) = c :: rest :=
    skipBlanks_append blank fun d front => Option.some.inj front ▸ visible
  cases argument with
  | quoted quoted =>
    obtain ⟨quote, body, rfl, quotes, -, taken⟩ := quoted_shape quoted
    refine ⟨after ++ c :: rest, ?_, skipped⟩
    rw [List.cons_append, List.append_assoc, List.singleton_append, readArgument, if_pos quotes,
      taken]
    rfl
  | bare bare noQuote =>
    have stop : c ∈ [',', ')', '\x7b'] := by rcases ends with rfl | rfl <;> decide
    have noOpen : c ≠ '\x7b' := by rcases ends with rfl | rfl <;> decide
    have nothing : AllBlank [] := fun _ member => absurd member List.not_mem_nil
    have read := bareText_complete bare nothing blank (List.all_eq_true.1 (by decide)) stop
      noOpen rest
    rw [List.nil_append] at read
    obtain ⟨d, text, rfl⟩ := List.exists_cons_of_ne_nil bare.some
    have plain := noQuote_iff.2 (noQuote d rfl)
    refine ⟨c :: rest, ?_, by rw [skipBlanks, List.dropWhile_cons_of_neg (by simp [visible])]⟩
    rw [List.cons_append] at read ⊢
    rw [readArgument, if_neg (by simp [plain]), read]
    rfl

theorem argument_visible {written : List Char} {a : Argument} (argument : WritesArgument written a)
    (rest : List Char) : ∀ c ∈ (written ++ rest).head?, isBlank c = false := by
  intro c first
  cases argument with
  | quoted quoted =>
    obtain ⟨quote, body, rfl, -, visible, -⟩ := quoted_shape quoted
    exact Option.some.inj first ▸ visible
  | bare bare _ =>
    obtain ⟨d, text, rfl⟩ := List.exists_cons_of_ne_nil bare.some
    exact bare.first c first

theorem readArgumentsFrom_sound {as : List Argument}
    (read : readArgumentsFrom cs = some (as, rest)) :
    ∃ inside, cs = inside ++ ')' :: rest ∧ WritesArguments inside as ∧ as ≠ [] := by
  fun_induction readArgumentsFrom cs generalizing as rest with
  | case1 | case4 => cases read
  | case2 cs a tail first more comma ih =>
    obtain ⟨⟨others, left⟩, found, same⟩ := Option.map_eq_some_iff.1 read
    obtain ⟨rfl, rfl⟩ := Prod.mk.inj same
    obtain ⟨inside, rfl, later, some⟩ := ih found
    obtain ⟨before, whole, blankBefore⟩ := skipBlanks_split cs
    obtain ⟨written, after, shape, blankAfter, argument⟩ :=
      readArgument_sound (head_skipBlanks cs) first
    obtain ⟨between, gap, blankBetween⟩ := skipBlanks_split tail
    obtain ⟨b, bs, rfl⟩ := List.exists_cons_of_ne_nil some
    refine ⟨_, ?_, .more blankBefore argument (allBlank_append blankAfter blankBetween) later,
      List.cons_ne_nil _ _⟩
    rw [whole, shape, gap, comma]
    simp
  | case3 cs a tail first left close =>
    obtain ⟨rfl, rfl⟩ := Prod.mk.inj (Option.some.inj read)
    obtain ⟨before, whole, blankBefore⟩ := skipBlanks_split cs
    obtain ⟨written, after, shape, blankAfter, argument⟩ :=
      readArgument_sound (head_skipBlanks cs) first
    obtain ⟨between, gap, blankBetween⟩ := skipBlanks_split tail
    refine ⟨_, ?_, .last blankBefore argument (allBlank_append blankAfter blankBetween),
      List.cons_ne_nil _ _⟩
    rw [whole, shape, gap, close]
    simp

theorem readArguments_sound {as : List Argument} (read : readArguments cs = some (as, rest)) :
    ∃ inside, cs = inside ++ ')' :: rest ∧ WritesArguments inside as := by
  rw [readArguments] at read
  split at read
  · rename_i close
    obtain ⟨rfl, rfl⟩ := Prod.mk.inj (Option.some.inj read)
    obtain ⟨before, whole, blank⟩ := skipBlanks_split cs
    exact ⟨before, close ▸ whole, .none blank⟩
  · obtain ⟨inside, shape, arguments, -⟩ := readArgumentsFrom_sound read
    exact ⟨inside, shape, arguments⟩

def argumentsAfter (a : Argument) (rest : List Char) : Option (List Argument × List Char) :=
  match skipBlanks rest with
  | ',' :: more => (readArgumentsFrom more).map fun r => (a :: r.1, r.2)
  | ')' :: rest => some ([a], rest)
  | _ => none

theorem readArgumentsFrom_eq (cs : List Char) :
    readArgumentsFrom cs =
      (readArgument (skipBlanks cs)).bind fun r => argumentsAfter r.1 r.2 := by
  rw [readArgumentsFrom]
  split
  · rename_i none
    rw [none]
    rfl
  · rename_i a rest read
    rw [read, Option.bind_some, argumentsAfter]
    split
    · rename_i more next
      rw [next]
      rfl
    · rename_i more next
      rw [next]
      rfl
    · rename_i noComma noParen
      split
      · rename_i more next
        exact (noComma more next).elim
      · rename_i more next
        exact (noParen more next).elim
      · rfl

theorem readArgumentsFrom_argument {before written after : List Char} {a : Argument} {c : Char}
    (blankBefore : AllBlank before) (argument : WritesArgument written a)
    (blankAfter : AllBlank after) (ends : c = ',' ∨ c = ')') (rest : List Char) :
    ∃ left, readArgumentsFrom (before ++ (written ++ (after ++ c :: rest))) =
      argumentsAfter a left ∧ skipBlanks left = c :: rest := by
  obtain ⟨left, read, skipped⟩ := readArgument_complete argument blankAfter ends rest
  refine ⟨left, ?_, skipped⟩
  rw [readArgumentsFrom_eq, skipBlanks_append blankBefore (argument_visible argument _), read]
  rfl

theorem readArgumentsFrom_complete {inside : List Char} {as : List Argument}
    (arguments : WritesArguments inside as) (some : as ≠ []) (rest : List Char) :
    readArgumentsFrom (inside ++ ')' :: rest) = .some (as, rest) := by
  induction arguments with
  | none => exact absurd rfl some
  | last blankBefore first blankAfter =>
    obtain ⟨left, read, skipped⟩ :=
      readArgumentsFrom_argument blankBefore first blankAfter (.inr rfl) rest
    simp only [List.append_assoc]
    rw [read, argumentsAfter, skipped]
    rfl
  | @more _ _ _ more a b as blankBefore first blankAfter later ih =>
    obtain ⟨left, read, skipped⟩ :=
      readArgumentsFrom_argument blankBefore first blankAfter (.inl rfl) (more ++ ')' :: rest)
    simp only [List.append_assoc, List.cons_append]
    rw [read, argumentsAfter, skipped]
    change Option.map _ (readArgumentsFrom (more ++ ')' :: rest)) = _
    rw [ih (List.cons_ne_nil b as)]
    rfl

theorem arguments_open {inside : List Char} {as : List Argument}
    (arguments : WritesArguments inside as) (some : as ≠ []) (rest tail : List Char) :
    skipBlanks (inside ++ rest) ≠ ')' :: tail := by
  have apart : ∀ {written : List Char} {a : Argument}, WritesArgument written a → ∀ more,
      written ++ more ≠ ')' :: tail := by
    intro written a argument more same
    cases argument with
    | quoted quoted =>
      obtain ⟨quote, body, rfl, quotes, -⟩ := quoted_shape quoted
      obtain ⟨rfl, -⟩ := List.cons.inj same
      exact absurd quotes (by decide)
    | bare bare _ =>
      obtain ⟨d, text, rfl⟩ := List.exists_cons_of_ne_nil bare.some
      obtain ⟨rfl, -⟩ := List.cons.inj same
      exact bare.goesOn ')' List.mem_cons_self (by decide)
  cases arguments with
  | none => exact absurd rfl some
  | last blankBefore first _ =>
    rw [List.append_assoc, List.append_assoc,
      skipBlanks_append blankBefore (argument_visible first _)]
    exact apart first _
  | more blankBefore first _ _ =>
    rw [List.append_assoc, List.append_assoc,
      skipBlanks_append blankBefore (argument_visible first _)]
    exact apart first _

theorem readArguments_complete {inside : List Char} {as : List Argument}
    (arguments : WritesArguments inside as) (rest : List Char) :
    readArguments (inside ++ ')' :: rest) = some (as, rest) := by
  rw [readArguments]
  by_cases none : as = []
  · subst none
    cases arguments with
    | none blank =>
      have close : ∀ c ∈ (')' :: rest).head?, isBlank c = false := by
        rintro c ⟨⟩
        decide
      rw [skipBlanks_append blank close]
      rfl
  · split
    · rename_i tail close
      exact absurd close (arguments_open arguments none _ tail)
    · exact readArgumentsFrom_complete arguments none rest

end

end TitleTemplate.Legacy
