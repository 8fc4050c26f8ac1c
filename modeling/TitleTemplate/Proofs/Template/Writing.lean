import TitleTemplate.Proofs.Template.Lexing

/-!
Writing lexemes down and reading them back. Words stand as they are, texts between quotes and
operators by their symbols; at least one blank between any two keeps words from running together
and operators from being taken for the halves of longer ones. What is written this way is read as
the lexemes it was written from, and between braces it is one expression.
-/
namespace TitleTemplate

/-- How a lexeme is written. A text is written the same way whether it was read with escapes or
without. -/
inductive IsWritten : Lexeme → List Char → Prop
  | word {w : List Char} (some : w ≠ [])
      (free : ∀ c ∈ w, endsWordAt c = false ∧ c ≠ '\\' ∧ c ≠ '\x7d') :
      IsWritten (.word (String.ofList w)) w
  | text (t : List Char) (escaped : Bool) : IsWritten (.text (String.ofList t) escaped) (quote t)
  | compare (op : Comparison) : IsWritten (.compare op) op.symbol.toList
  | pipe : IsWritten .pipe ['|']
  | parenOpen : IsWritten .parenOpen ['(']
  | parenClose : IsWritten .parenClose [')']
  | comma : IsWritten .comma [',']

def BlankNext (rest : List Char) : Prop := ∀ c ∈ rest.head?, isBlank c = true

/-- Written lexemes among blanks. After a lexeme the text ends or goes on with a blank, so that any
two lexemes have one between them. -/
inductive AreWritten : List Lexeme → List Char → Prop
  | nothing : AreWritten [] []
  | blank {ls : List Lexeme} {c : Char} {rest : List Char} (blank : isBlank c = true)
      (more : AreWritten ls rest) : AreWritten ls (c :: rest)
  | lexeme {l : Lexeme} {ls : List Lexeme} {text rest : List Char} (first : IsWritten l text)
      (apart : BlankNext rest) (more : AreWritten ls rest) : AreWritten (l :: ls) (text ++ rest)

/-- A lexeme up to whether its text was read with escapes. -/
def Lexeme.unmarked : Lexeme → Lexeme
  | .text t _ => .text t false
  | l => l

theorem blankNext_nil : BlankNext [] := by
  intro c next
  cases next

theorem blankNext_cons {c : Char} (blank : isBlank c = true) (rest : List Char) :
    BlankNext (c :: rest) := by
  intro d next
  exact Option.some.inj next ▸ blank

theorem endsWord_of_blankNext {rest : List Char} (apart : BlankNext rest) : EndsWord rest := by
  intro c next
  rw [endsWordAt, apart c next, Bool.true_or]

theorem apart_of_blankNext {rest : List Char} (apart : BlankNext rest) :
    rest.head? ≠ some '=' := by
  intro next
  exact absurd (apart '=' next) (by decide)

theorem written_read {l : Lexeme} {text : List Char} (written : IsWritten l text)
    {rest : List Char} (apart : BlankNext rest) :
    ∃ m, plainLexed (text ++ rest) = (plainLexed rest).put m ∧ m.unmarked = l.unmarked := by
  cases written with
  | word some free =>
    have unbroken := plainLexed_unbroken some
      (fun c member => ⟨(free c member).1, (free c member).2.1⟩) (endsWord_of_blankNext apart)
    exact ⟨_, unbroken, rfl⟩
  | text t escaped => exact ⟨quotedLexeme t, plainLexed_quote t rest, rfl⟩
  | compare op => exact ⟨_, plainLexed_symbol op (apart_of_blankNext apart), rfl⟩
  | pipe => exact ⟨_, plainLexed_pipe rest, rfl⟩
  | parenOpen => exact ⟨_, plainLexed_parenOpen rest, rfl⟩
  | parenClose => exact ⟨_, plainLexed_parenClose rest, rfl⟩
  | comma => exact ⟨_, plainLexed_comma rest, rfl⟩

theorem lexemes_read {ls : List Lexeme} {cs : List Char} (written : AreWritten ls cs) :
    ∃ ms, plainLexed cs = Lexed.putAll ms ⟨[], none, default⟩ ∧
      ms.map Lexeme.unmarked = ls.map Lexeme.unmarked := by
  induction written with
  | nothing => exact ⟨[], plainLexed_nil, rfl⟩
  | blank blank _ ih =>
    obtain ⟨ms, read, same⟩ := ih
    exact ⟨ms, (plainLexed_skip blank _).trans read, same⟩
  | lexeme first apart _ ih =>
    obtain ⟨ms, later, others⟩ := ih
    obtain ⟨m, read, same⟩ := written_read first apart
    refine ⟨m :: ms, ?_, by rw [List.map_cons, List.map_cons, same, others]⟩
    rw [read, later]
    rfl

theorem enclosed_written {l : Lexeme} {text : List Char} (written : IsWritten l text) :
    Enclosed text := by
  cases written with
  | word _ free =>
    refine enclosed_of_all (List.all_eq_true.2 fun c member => ?_)
    obtain ⟨_, noEscape, noClose⟩ := free c member
    exact Bool.and_eq_true_iff.2 ⟨bne_iff_ne.2 noClose, bne_iff_ne.2 noEscape⟩
  | text t _ => exact enclosed_quote t
  | compare op => exact enclosed_of_all (by cases op <;> decide)
  | pipe | parenOpen | parenClose | comma => exact enclosed_of_all (by decide)

theorem enclosed_blank {c : Char} (blank : isBlank c = true) : Enclosed [c] := by
  refine enclosed_char ?_ ?_ <;>
    · rintro rfl
      revert blank
      decide

theorem enclosed_lexemes {ls : List Lexeme} {cs : List Char} (written : AreWritten ls cs) :
    Enclosed cs := by
  induction written with
  | nothing => exact enclosed_nil
  | blank blank _ ih => exact enclosed_append (enclosed_blank blank) ih
  | lexeme first _ _ ih => exact enclosed_append (enclosed_written first) ih

theorem scan_putAll {cs : List Char} {ms : List Lexeme}
    (read : plainLexed cs = Lexed.putAll ms ⟨[], none, default⟩) (p : Position) :
    (Lexed.scan p cs).fault = none ∧ (Lexed.scan p cs).lexemes.map Prod.fst = ms := by
  have plain := (scan_plain p cs).trans (read.trans (putAll_nothing ms))
  constructor
  · exact Option.map_eq_none_iff.1 (congrArg Lexed.fault plain)
  · have lexemes := congrArg (fun l => l.lexemes.map Prod.fst) plain
    simpa [Lexed.relocate, relocateLexemes, unplaced, Function.comp_def] using lexemes

/-- Reading takes back writing. -/
theorem written_lexemes_read {ls : List Lexeme} {cs : List Char} (written : AreWritten ls cs) :
    (∀ p : Position, (Lexed.scan p cs).fault = none ∧
      (Lexed.scan p cs).lexemes.map (·.1.unmarked) = ls.map Lexeme.unmarked) ∧
    (cs.head? ≠ some '\x7b' →
      (Token.ofTemplate (String.ofList (braced cs))).map Prod.fst = [.expression cs]) := by
  obtain ⟨ms, read, same⟩ := lexemes_read written
  constructor
  · intro p
    obtain ⟨clean, lexemes⟩ := scan_putAll read p
    refine ⟨clean, ?_⟩
    rw [← same, ← lexemes, List.map_map]
    rfl
  · intro single
    have scanned := scan_braced (enclosed_lexemes written) single []
    rw [List.append_nil, Token.scan_nil] at scanned
    rw [Token.ofTemplate, Token.locate_tokens, String.toList_ofList, scanned]

/-- Braces and backslashes in a word and in a text, and operators that must not run together. -/
theorem written_lexemes_read_mixed :
    let word := ['a', '\x7b', 'b']
    let text := ['\\', '\'', '\x7d', '\n']
    let written := word ++ ' ' :: (Comparison.lt.symbol.toList ++ ' ' ::
      (Comparison.eq.symbol.toList ++ '\t' :: (quote text ++ [])))
    let lexemes : List Lexeme :=
      [.word (String.ofList word), .compare .lt, .compare .eq, .text (String.ofList text) false]
    String.ofList written = "a\x7bb < =\t'\\\\\\'\\\x7d\\n'" ∧ AreWritten lexemes written ∧
      (Lexed.scan .first written).fault = none ∧
      (Lexed.scan .first written).lexemes.map (·.1.unmarked) = lexemes ∧
      (Token.ofTemplate (String.ofList (braced written))).map Prod.fst = [.expression written] := by
  intro word text written lexemes
  have free : ∀ c ∈ word, endsWordAt c = false ∧ c ≠ '\\' ∧ c ≠ '\x7d' := by
    intro c member
    simp only [word, List.mem_cons, List.not_mem_nil, or_false] at member
    rcases member with rfl | rfl | rfl <;> decide
  have isWord : IsWritten (.word (String.ofList word)) word := .word (by decide) free
  have last := AreWritten.lexeme (.text text false) blankNext_nil .nothing
  have equal := AreWritten.lexeme (.compare .eq) (blankNext_cons (by decide) _)
    (.blank (c := '\t') (by decide) last)
  have less := AreWritten.lexeme (.compare .lt) (blankNext_cons (by decide) _)
    (.blank (c := ' ') (by decide) equal)
  have each : AreWritten lexemes written := .lexeme isWord (blankNext_cons (by decide) _)
    (.blank (c := ' ') (by decide) less)
  obtain ⟨read, whole⟩ := written_lexemes_read each
  exact ⟨by decide, each, (read .first).1, (read .first).2, whole (by decide)⟩

end TitleTemplate
