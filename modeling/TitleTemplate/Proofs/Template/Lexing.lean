import TitleTemplate.Proofs.Template.Spelling
import TitleTemplate.Template.Expression

/-!
The lexemes of texts that are written on purpose: words, quoted texts, punctuation and operators,
one after the other. A word has to be followed by something that ends it; everything else ends by
itself. None of these texts ends the expression it stands in.
-/
namespace TitleTemplate

def Lexed.put (lexeme : Lexeme) (l : Lexed) : Lexed :=
  { l with lexemes := (lexeme, default) :: l.lexemes }

def Lexed.putAll (lexemes : List Lexeme) (l : Lexed) : Lexed := lexemes.foldr Lexed.put l

theorem putAll_append (ls ms : List Lexeme) (l : Lexed) :
    Lexed.putAll (ls ++ ms) l = Lexed.putAll ls (Lexed.putAll ms l) :=
  List.foldr_append

def unplaced (ls : List Lexeme) : List (Lexeme × Span) := ls.map (·, default)

theorem putAll_nothing (ls : List Lexeme) :
    Lexed.putAll ls ⟨[], none, default⟩ = ⟨unplaced ls, none, default⟩ := by
  induction ls with
  | nil => rfl
  | cons l ls ih =>
    rw [Lexed.putAll, List.foldr_cons]
    exact congrArg (Lexed.put l) ih

theorem plainLexed_blanks {cs : List Char} (blank : cs.dropWhile isBlank = []) :
    plainLexed cs = ⟨[], none, default⟩ := by
  rw [plainLexed, scan_only_blanks default blank]
  rfl

theorem plainLexed_nil : plainLexed [] = ⟨[], none, default⟩ := plainLexed_blanks rfl

theorem plainLexed_first {cs tail : List Char} {c : Char}
    (first : cs.dropWhile isBlank = c :: tail) :
    plainLexed cs =
      match (scanLexeme c tail).result with
      | .error fault => ⟨[], some (fault, default), default⟩
      | .ok lexeme => (plainLexed (scanLexeme c tail).rest).put lexeme := by
  rw [plainLexed, scan_lexeme default first]
  cases (scanLexeme c tail).result with
  | error fault => rfl
  | ok lexeme =>
    rw [← scan_plain ((Position.after default (cs.takeWhile isBlank)).after
      (scanLexeme c tail).taken) (scanLexeme c tail).rest]
    rfl

theorem plainLexed_skip {c : Char} (blank : isBlank c = true) (cs : List Char) :
    plainLexed (c :: cs) = plainLexed cs := by
  have skipped : (c :: cs).dropWhile isBlank = cs.dropWhile isBlank := by
    rw [List.dropWhile_cons, if_pos blank]
  cases first : cs.dropWhile isBlank with
  | nil => rw [plainLexed_blanks first, plainLexed_blanks (skipped.trans first)]
  | cons d tail => rw [plainLexed_first first, plainLexed_first (skipped.trans first)]

theorem plainLexed_lexeme {c : Char} {tail : List Char} {s : LexemeScan} {lexeme : Lexeme}
    (some : isBlank c = false) (scanned : scanLexeme c tail = s) (read : s.result = .ok lexeme) :
    plainLexed (c :: tail) = (plainLexed s.rest).put lexeme := by
  have first : (c :: tail).dropWhile isBlank = c :: tail := by
    rw [List.dropWhile_cons, some]
    rfl
  rw [plainLexed_first first, scanned, read]

/-- Characters that mean themselves in a word, and words nothing else. -/
def isWordChar (c : Char) : Bool :=
  !endsWordAt c && c != '\\' && c != '\x7b' && c != '\x7d'

def EndsWord (tail : List Char) : Prop := ∀ c ∈ tail.head?, endsWordAt c = true

theorem endsWord_nil : EndsWord [] := by
  intro c member
  cases member

theorem endsWord_cons {c : Char} (ends : endsWordAt c = true) (tail : List Char) :
    EndsWord (c :: tail) := by
  intro d member
  obtain rfl := Option.some.inj member
  exact ends

theorem isWordChar_iff {c : Char} :
    isWordChar c = true ↔
      endsWordAt c = false ∧ c ≠ '\\' ∧ c ≠ '\x7b' ∧ c ≠ '\x7d' := by
  simp only [isWordChar, Bool.and_eq_true, Bool.not_eq_true', bne_iff_ne, and_assoc]

theorem enclosed_word {w : List Char} (word : ∀ c ∈ w, isWordChar c = true) : Enclosed w := by
  refine enclosed_of_all (List.all_eq_true.2 fun c member => ?_)
  obtain ⟨_, noEscape, _, noClose⟩ := isWordChar_iff.1 (word c member)
  exact Bool.and_eq_true_iff.2 ⟨bne_iff_ne.2 noClose, bne_iff_ne.2 noEscape⟩

theorem splitWord_word {w tail : List Char} (word : ∀ c ∈ w, endsWordAt c = false ∧ c ≠ '\\')
    (ends : EndsWord tail) : splitWord (w ++ tail) = (w, tail) := by
  induction w with
  | nil =>
    cases tail with
    | nil => rfl
    | cons c tail =>
      have stop : endsWordAt c = true := ends c rfl
      have noEscape : c ≠ '\\' := by
        rintro rfl
        revert stop
        decide
      rw [List.nil_append, splitWord, if_pos stop]
      rintro d rest rfl
      exact absurd rfl noEscape
  | cons c w ih =>
    obtain ⟨inside, noEscape⟩ := word c List.mem_cons_self
    have later := ih fun d member => word d (List.mem_cons_of_mem c member)
    rw [List.cons_append, splitWord, inside, later]
    · rfl
    · rintro d rest rfl
      exact absurd rfl noEscape

theorem scanLexeme_other {c : Char}
    (other : c ∉ ['|', '(', ')', ',', '=', '!', '<', '>', '~', '\'', '"']) (cs : List Char) :
    scanLexeme c cs = scanWord c cs := by
  unfold scanLexeme
  split
  all_goals first
    | rfl
    | exact absurd (by decide) other

theorem scanLexeme_word {c : Char} (inside : endsWordAt c = false) (cs : List Char) :
    scanLexeme c cs = scanWord c cs :=
  scanLexeme_other (of_decide_eq_false (Bool.or_eq_false_iff.1 inside).2) cs

theorem dangles_cons {c : Char} (noEscape : c ≠ '\\') (cs : List Char) :
    dangles (c :: cs) = dangles cs := by
  cases cs with
  | nil => simp [dangles, noEscape]
  | cons d cs => simp [dangles, noEscape]

theorem dangles_word {w : List Char} (noEscape : '\\' ∉ w) : dangles w = false := by
  induction w with
  | nil => rfl
  | cons c w ih =>
    have other : c ≠ '\\' := fun same => noEscape (same ▸ List.mem_cons_self)
    rw [dangles_cons other]
    exact ih fun member => noEscape (List.mem_cons_of_mem c member)

theorem not_blank_of_inside {c : Char} (inside : endsWordAt c = false) : isBlank c = false :=
  (Bool.or_eq_false_iff.1 inside).1

theorem scanLexeme_whole_word {c : Char} {w tail : List Char}
    (word : ∀ d ∈ c :: w, endsWordAt d = false ∧ d ≠ '\\') (ends : EndsWord tail) :
    scanLexeme c (w ++ tail) = ⟨.ok (.word (String.ofList (c :: w))), c :: w, tail⟩ := by
  obtain ⟨inside, noEscape⟩ := word c List.mem_cons_self
  have split : splitWordAfter c (w ++ tail) = (w, tail) := by
    rw [splitWordAfter.eq_def, if_neg noEscape]
    exact splitWord_word (fun d member => word d (List.mem_cons_of_mem c member)) ends
  have noEscapes : '\\' ∉ c :: w := fun member => (word _ member).2 rfl
  rw [scanLexeme_word inside, scanWord]
  simp only [split, dangles_word noEscapes, Bool.false_eq_true, ↓reduceIte, spelled, noEscapes]

theorem plainLexed_unbroken {w tail : List Char} (some : w ≠ [])
    (word : ∀ c ∈ w, endsWordAt c = false ∧ c ≠ '\\') (ends : EndsWord tail) :
    plainLexed (w ++ tail) = (plainLexed tail).put (.word (String.ofList w)) := by
  cases w with
  | nil => exact absurd rfl some
  | cons c w =>
    have noBlank := not_blank_of_inside (word c List.mem_cons_self).1
    exact plainLexed_lexeme noBlank (scanLexeme_whole_word word ends) rfl

theorem unbroken_of_word {w : List Char} (word : ∀ c ∈ w, isWordChar c = true) :
    ∀ c ∈ w, endsWordAt c = false ∧ c ≠ '\\' := by
  intro c member
  obtain ⟨inside, noEscape, _⟩ := isWordChar_iff.1 (word c member)
  exact ⟨inside, noEscape⟩

theorem plainLexed_word {w tail : List Char} (some : w ≠ []) (word : ∀ c ∈ w, isWordChar c = true)
    (ends : EndsWord tail) :
    plainLexed (w ++ tail) = (plainLexed tail).put (.word (String.ofList w)) :=
  plainLexed_unbroken some (unbroken_of_word word) ends

theorem plainLexed_pipe (tail : List Char) :
    plainLexed ('|' :: tail) = (plainLexed tail).put .pipe :=
  plainLexed_lexeme (by decide) rfl rfl

theorem plainLexed_parenOpen (tail : List Char) :
    plainLexed ('(' :: tail) = (plainLexed tail).put .parenOpen :=
  plainLexed_lexeme (by decide) rfl rfl

theorem plainLexed_parenClose (tail : List Char) :
    plainLexed (')' :: tail) = (plainLexed tail).put .parenClose :=
  plainLexed_lexeme (by decide) rfl rfl

theorem plainLexed_comma (tail : List Char) :
    plainLexed (',' :: tail) = (plainLexed tail).put .comma :=
  plainLexed_lexeme (by decide) rfl rfl

theorem scanLexeme_single {c : Char} {op : Comparison} {tail : List Char}
    (symbol : (c, op) ∈ [('=', Comparison.eq), ('>', .gt), ('<', .lt)])
    (apart : tail.head? ≠ some '=') : scanLexeme c tail = ⟨.ok (.compare op), [c], tail⟩ := by
  have other : ∀ rest, tail ≠ '=' :: rest := by
    rintro rest rfl
    exact apart rfl
  simp only [List.mem_cons, Prod.mk.injEq, List.not_mem_nil, or_false] at symbol
  rcases symbol with ⟨rfl, rfl⟩ | ⟨rfl, rfl⟩ | ⟨rfl, rfl⟩ <;> rw [scanLexeme] <;>
    exact fun rest same => other rest same

/-- An operator is read whole unless what follows makes it the first half of another. -/
theorem plainLexed_symbol (op : Comparison) {tail : List Char} (apart : tail.head? ≠ some '=') :
    plainLexed (op.symbol.toList ++ tail) = (plainLexed tail).put (.compare op) := by
  cases op with
  | ne | gte | lte | contains => exact plainLexed_lexeme (by decide) rfl rfl
  | eq => exact plainLexed_lexeme (by decide) (scanLexeme_single (by decide) apart) rfl
  | gt => exact plainLexed_lexeme (by decide) (scanLexeme_single (by decide) apart) rfl
  | lt => exact plainLexed_lexeme (by decide) (scanLexeme_single (by decide) apart) rfl

theorem plainLexed_compare (op : Comparison) (tail : List Char) :
    plainLexed (op.symbol.toList ++ ' ' :: tail) = (plainLexed tail).put (.compare op) := by
  rw [plainLexed_symbol op (by simp), plainLexed_skip (by decide)]

theorem unescape_plain {c : Char} (noEscape : c ≠ '\\') (rest : List Char) :
    unescapeFrom none (c :: rest) = (unescapeFrom none rest).map (c :: ·) := by
  rw [unescapeFrom]
  · cases unescapeFrom none rest <;> rfl
  all_goals
    intros
    exact noEscape ‹_›

theorem unescape_escape {c d : Char} (notUnit : c ≠ 'u') (known : escaped? c = some d)
    (rest : List Char) :
    unescapeFrom none ('\\' :: c :: rest) = (unescapeFrom none rest).map (d :: ·) := by
  rw [unescapeFrom]
  · cases unescapeFrom none rest <;> rfl
  case heq => exact known
  all_goals
    intros
    exact notUnit ‹_›

theorem quoteChar_cases (c : Char) :
    (quoteChar c = [c] ∧ c ≠ '\'' ∧ c ≠ '\\' ∧ c ≠ '\x7d') ∨
      ∃ d, quoteChar c = ['\\', d] ∧ d ≠ 'u' ∧ escaped? d = some c := by
  by_cases special : c = '\'' ∨ c = '\\' ∨ c = '\x7d'
  · refine Or.inr ⟨c, by rw [quoteChar, if_pos special], ?_⟩
    rcases special with rfl | rfl | rfl <;> decide
  · obtain ⟨noQuote, noEscape, noClose⟩ := by simpa only [not_or] using special
    by_cases newline : c = '\n'
    · exact Or.inr ⟨'n', by rw [newline]; decide⟩
    · by_cases carriage : c = '\r'
      · exact Or.inr ⟨'r', by rw [carriage]; decide⟩
      · by_cases tab : c = '\t'
        · exact Or.inr ⟨'t', by rw [tab]; decide⟩
        · refine Or.inl ⟨?_, noQuote, noEscape, noClose⟩
          rw [quoteChar, if_neg special, if_neg newline, if_neg carriage, if_neg tab]

theorem unescape_quoted (t : List Char) : unescapeFrom none (t.flatMap quoteChar) = .ok t := by
  induction t with
  | nil => rfl
  | cons c t ih =>
    rw [List.flatMap_cons]
    rcases quoteChar_cases c with ⟨same, _, noEscape, _⟩ | ⟨d, same, notUnit, known⟩
    · rw [same, List.singleton_append, unescape_plain noEscape, ih]
      rfl
    · rw [same]
      refine (unescape_escape notUnit known (t.flatMap quoteChar)).trans ?_
      rw [ih]
      rfl

theorem splitQuoted_quoted (t tail : List Char) :
    splitQuoted '\'' (t.flatMap quoteChar ++ '\'' :: tail) = some (t.flatMap quoteChar, tail) := by
  induction t with
  | nil => simp [splitQuoted]
  | cons c t ih =>
    rw [List.flatMap_cons]
    rcases quoteChar_cases c with ⟨same, noQuote, noEscape, _⟩ | ⟨d, same, _, _⟩
    · rw [same, List.singleton_append, List.cons_append, splitQuoted, if_neg noQuote, ih]
      · rfl
      · rintro d rest rfl
        exact absurd rfl noEscape
    · rw [same]
      simp only [List.cons_append, List.nil_append, splitQuoted, ih, Option.map_some]

theorem flatMap_quoteChar {t : List Char} (noEscape : '\\' ∉ t.flatMap quoteChar) :
    t.flatMap quoteChar = t := by
  induction t with
  | nil => rfl
  | cons c t ih =>
    rw [List.flatMap_cons, List.mem_append, not_or] at noEscape
    rw [List.flatMap_cons, ih noEscape.2]
    rcases quoteChar_cases c with ⟨same, _⟩ | ⟨d, same, _⟩
    · rw [same]
      rfl
    · rw [same] at noEscape
      exact absurd List.mem_cons_self noEscape.1

def quotedLexeme (t : List Char) : Lexeme :=
  .text (String.ofList t) ('\\' ∈ t.flatMap quoteChar)

theorem plainLexed_quote (t tail : List Char) :
    plainLexed (quote t ++ tail) = (plainLexed tail).put (quotedLexeme t) := by
  have shape : quote t ++ tail = '\'' :: (t.flatMap quoteChar ++ '\'' :: tail) := by
    simp [quote]
  have read : spelled (Lexeme.text · false) (t.flatMap quoteChar) = .ok (quotedLexeme t) := by
    by_cases escapes : '\\' ∈ t.flatMap quoteChar
    · simp only [spelled, escapes, ↓reduceIte, unescape, unescape_quoted, quotedLexeme,
        decide_true]
    · rw [spelled, if_neg escapes, quotedLexeme, flatMap_quoteChar escapes]
      rw [flatMap_quoteChar escapes] at escapes
      simp only [escapes, decide_false]
  have scanned : scanLexeme '\'' (t.flatMap quoteChar ++ '\'' :: tail) =
      ⟨.ok (quotedLexeme t), '\'' :: (t.flatMap quoteChar ++ ['\'']), tail⟩ := by
    rw [scanLexeme, scanQuoted, splitQuoted_quoted]
    simp only [read]
  rw [shape]
  exact plainLexed_lexeme (by decide) scanned rfl

theorem enclosed_quote (t : List Char) : Enclosed (quote t) := by
  refine enclosed_append (enclosed_char (by decide) (by decide))
    (enclosed_append (enclosed_flatMap fun c _ => ?_) (enclosed_char (by decide) (by decide)))
  rcases quoteChar_cases c with ⟨same, _, noEscape, noClose⟩ | ⟨d, same, _⟩
  · rw [same]
    exact enclosed_char noClose noEscape
  · rw [same]
    exact enclosed_escape d

/-! The expression that opens a conditional is a phrase after the word `if`. -/

theorem directive_if (phrase : List Char) : Directive.of ("if ".toList ++ phrase) = .openIf := by
  have skipped : skipBlanks ("if ".toList ++ phrase) = 'i' :: 'f' :: ' ' :: phrase := rfl
  have keyword : (skipBlanks ("if ".toList ++ phrase)).takeWhile (!isBlank ·) = ['i', 'f'] := by
    rw [skipped]
    rfl
  simp only [Directive.of, keyword]
  rfl

theorem plainLexed_if (phrase : List Char) :
    plainLexed ("if ".toList ++ phrase) = (plainLexed phrase).put (.word "if") := by
  have shape : "if ".toList ++ phrase = "if".toList ++ ' ' :: phrase := rfl
  have word : ∀ c ∈ "if".toList, isWordChar c = true := List.all_eq_true.1 (by decide)
  rw [shape, plainLexed_word (by decide) word (endsWord_cons (by decide) _),
    plainLexed_skip (by decide)]
  rfl

theorem enclosed_if {phrase : List Char} (enclosed : Enclosed phrase) :
    Enclosed ("if ".toList ++ phrase) :=
  enclosed_append (enclosed_of_all (by decide)) enclosed

theorem if_single (phrase : List Char) : ("if ".toList ++ phrase).head? ≠ some '\x7b' := by
  have first : ("if ".toList ++ phrase).head? = some 'i' := rfl
  rw [first]
  decide

end TitleTemplate
