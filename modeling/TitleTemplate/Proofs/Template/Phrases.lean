import TitleTemplate.Proofs.Template.Conditions
import TitleTemplate.Proofs.Template.Excerpts
import TitleTemplate.Proofs.Template.Lexing

/-!
Excerpts of expressions. Where a lexeme ends does not depend on how much comes after it, and a
backslash never escapes what is outside of the lexeme it is in. So the text from the beginning of
one lexeme to the end of another has the lexemes between them, and ends no expression that the
whole does not end.
-/
namespace TitleTemplate

theorem dangles_append {a : List Char} (whole : dangles a = false) (b : List Char) :
    dangles (a ++ b) = dangles b := by
  fun_induction dangles a with
  | case1 => rfl
  | case2 => cases whole
  | case3 c cs ih => simpa [dangles] using ih whole
  | case4 c cs notLast noEscape ih =>
    rw [List.cons_append, dangles_cons (noEscape_of_more noEscape notLast)]
    exact ih whole

theorem enclosed_rest {a b : List Char} (first : Enclosed a) (both : Enclosed (a ++ b)) :
    Enclosed b := by
  intro tail
  have whole := both tail
  rw [List.append_assoc, first] at whole
  cases split : splitAtClose (b ++ tail) <;> cases rest : splitAtClose tail <;>
    simp_all [Prod.ext_iff]

theorem noClose_of_enclosed {c : Char} {cs : List Char} (enclosed : Enclosed (c :: cs)) :
    c ≠ '\x7d' := by
  rintro rfl
  have nothing := enclosed []
  simp [splitAtClose] at nothing

/-- Between a part that escapes nothing after it and what follows, nothing is hidden. -/
theorem enclosed_parts {a b : List Char} (whole : dangles a = false)
    (enclosed : Enclosed (a ++ b)) : Enclosed a ∧ Enclosed b := by
  have front : Enclosed a := by
    fun_induction dangles a with
    | case1 => exact enclosed_nil
    | case2 => cases whole
    | case3 c cs ih =>
      have escape := enclosed_escape c
      exact enclosed_append escape (ih whole (enclosed_rest escape enclosed))
    | case4 c cs notLast noEscape ih =>
      have char := enclosed_char (noClose_of_enclosed enclosed) (noEscape_of_more noEscape notLast)
      exact enclosed_append char (ih whole (enclosed_rest char enclosed))
  exact ⟨front, enclosed_rest front enclosed⟩

theorem splitWord_cut {cs w rest x : List Char} (split : splitWord cs = (w, rest))
    (front : x <+: rest) : splitWord (w ++ x) = (w, x) := by
  fun_induction splitWord cs generalizing w rest with
  | case1 =>
    obtain ⟨rfl, rfl⟩ := Prod.mk.inj split
    rw [List.prefix_nil.1 front]
    rfl
  | case2 c cs word =>
    rename_i ih
    obtain ⟨rfl, rfl⟩ := Prod.mk.inj split
    rw [List.cons_append, List.cons_append, splitWord, ih rfl front]
  | case3 c cs noEscape ends =>
    obtain ⟨rfl, rfl⟩ := Prod.mk.inj split
    refine splitWord_word (by simp) fun d first => ?_
    obtain rfl := Option.some.inj (head_of_front front first)
    exact ends
  | case4 c cs noEscape inside word =>
    rename_i ih
    obtain ⟨rfl, rfl⟩ := Prod.mk.inj split
    by_cases escape : c = '\\'
    · -- The backslash is the last character there is.
      subst escape
      cases cs with
      | cons d cs => exact absurd rfl (noEscape d cs rfl)
      | nil =>
        rw [List.prefix_nil.1 front]
        rfl
    · rw [List.cons_append, splitWord, if_neg inside, ih rfl front]
      rintro d rest rfl
      exact absurd rfl escape

theorem splitWordAfter_cut {c : Char} {cs w rest x : List Char}
    (split : splitWordAfter c cs = (w, rest)) (front : x <+: rest) :
    splitWordAfter c (w ++ x) = (w, x) := by
  unfold splitWordAfter at split ⊢
  by_cases escape : c = '\\'
  · rw [if_pos escape] at split ⊢
    cases cs with
    | nil =>
      obtain ⟨rfl, rfl⟩ := Prod.mk.inj split
      rw [List.prefix_nil.1 front]
      rfl
    | cons d cs =>
      obtain ⟨rfl, rfl⟩ := Prod.mk.inj split
      have later := splitWord_cut (Prod.eta (splitWord cs)).symm front
      simp only [List.cons_append, later]
  · rw [if_neg escape] at split ⊢
    exact splitWord_cut split front

theorem splitQuoted_cut {quote : Char} (plain : quote ≠ '\\') {cs inner rest : List Char}
    (split : splitQuoted quote cs = some (inner, rest)) (x : List Char) :
    splitQuoted quote (inner ++ quote :: x) = some (inner, x) ∧
      dangles (inner ++ [quote]) = false := by
  fun_induction splitQuoted quote cs generalizing inner rest with
  | case1 => cases split
  | case2 c cs ih =>
    obtain ⟨⟨a, b⟩, later, same⟩ := Option.map_eq_some_iff.1 split
    obtain ⟨rfl, rfl⟩ := Prod.mk.inj same
    obtain ⟨found, whole⟩ := ih later
    constructor
    · rw [List.cons_append, List.cons_append, splitQuoted, found]
      rfl
    · simpa [dangles] using whole
  | case3 cs noEscape =>
    obtain ⟨rfl, rfl⟩ := Prod.mk.inj (Option.some.inj split)
    constructor
    · rw [List.nil_append, splitQuoted, if_pos rfl]
      exact fun d rest same => absurd same plain
    · exact dangles_cons plain []
  | case4 c cs noEscape other ih =>
    obtain ⟨⟨a, b⟩, later, same⟩ := Option.map_eq_some_iff.1 split
    obtain ⟨rfl, rfl⟩ := Prod.mk.inj same
    obtain ⟨found, whole⟩ := ih later
    have unescaped := noEscape_of_more noEscape fun _ none => by simp [none, splitQuoted] at later
    constructor
    · rw [List.cons_append, splitQuoted, if_neg other, found]
      · rfl
      · exact fun d rest same => absurd same unescaped
    · rw [List.cons_append, dangles_cons unescaped]
      exact whole

/-- A lexeme that begins here and is the same whatever part of what follows it is there. -/
def Settled (c : Char) (tail : List Char) (l : Lexeme) : Prop :=
  ∃ more rest, tail = more ++ rest ∧ dangles (c :: more) = false ∧
    ∀ x, x <+: rest → scanLexeme c (more ++ x) = ⟨.ok l, c :: more, x⟩

theorem settled_single {c : Char} {op : Comparison} {tail : List Char}
    (symbol : (c, op) ∈ [('=', Comparison.eq), ('>', .gt), ('<', .lt)])
    (apart : ∀ rest, tail ≠ '=' :: rest) (plain : c ≠ '\\') : Settled c tail (.compare op) := by
  refine ⟨[], tail, rfl, dangles_cons plain [], fun x front => scanLexeme_single symbol ?_⟩
  intro first
  obtain ⟨rest, begins⟩ := List.head?_eq_some_iff.1 (head_of_front front first)
  exact apart rest begins

theorem settled_quoted {quote : Char} {tail : List Char} {l : Lexeme} (plain : quote ≠ '\\')
    (quotes : ∀ cs, scanLexeme quote cs = scanQuoted quote cs)
    (read : (scanQuoted quote tail).result = .ok l) : Settled quote tail l := by
  rw [scanQuoted] at read
  cases split : splitQuoted quote tail with
  | none =>
    rw [split] at read
    cases read
  | some parts =>
    obtain ⟨inner, rest⟩ := parts
    rw [split] at read
    refine ⟨inner ++ [quote], rest, ?_, ?_, fun x _ => ?_⟩
    · rw [List.append_assoc]
      exact (splitQuoted_append split).symm
    · rw [dangles_cons plain]
      exact (splitQuoted_cut plain split []).2
    · rw [quotes, List.append_assoc, List.singleton_append, scanQuoted,
        (splitQuoted_cut plain split x).1]
      exact congrArg (LexemeScan.mk · _ x) read

theorem settled_word {c : Char} {tail : List Char} {l : Lexeme}
    (words : ∀ cs, scanLexeme c cs = scanWord c cs)
    (read : (scanWord c tail).result = .ok l) : Settled c tail l := by
  obtain ⟨more, rest, split⟩ : ∃ more rest, splitWordAfter c tail = (more, rest) := ⟨_, _, rfl⟩
  have whole := splitWordAfter_append c tail
  rw [scanWord] at read
  rw [split] at whole
  simp only [split] at read
  cases dangling : dangles (c :: more) with
  | true =>
    rw [dangling] at read
    cases read
  | false =>
    refine ⟨more, rest, whole.symm, dangling, fun x front => ?_⟩
    rw [dangling] at read
    rw [words, scanWord]
    simp only [splitWordAfter_cut split front, dangling]
    exact congrArg (LexemeScan.mk · _ x) read

theorem scanLexeme_settled {c : Char} {tail : List Char} {l : Lexeme}
    (read : (scanLexeme c tail).result = .ok l) : Settled c tail l := by
  unfold scanLexeme at read
  split at read
  -- Operators of two characters, then of one that could be the first of two.
  case h_1 | h_2 | h_3 | h_4 =>
    obtain rfl := Except.ok.inj read
    exact ⟨['='], _, rfl, by decide, fun x _ => rfl⟩
  case h_5 apart | h_6 apart | h_7 apart =>
    obtain rfl := Except.ok.inj read
    exact settled_single (by decide) apart (by decide)
  case h_8 | h_9 | h_10 | h_11 | h_12 =>
    obtain rfl := Except.ok.inj read
    exact ⟨[], tail, rfl, by decide, fun x _ => rfl⟩
  case h_13 | h_14 => exact settled_quoted (by decide) (fun _ => rfl) read
  case h_15 => cases read
  case h_16 => exact settled_word (scanLexeme_other (by simp_all)) read

def Lexed.cons (l : Lexeme × Span) (later : Lexed) : Lexed :=
  { later with lexemes := l :: later.lexemes }

theorem dangles_blanks {b : List Char} (blank : ∀ c ∈ b, isBlank c = true) : dangles b = false := by
  refine dangles_word fun escape => ?_
  exact absurd (blank _ escape) (by decide)

theorem scan_next (p : Position) {b : List Char} (blank : ∀ c ∈ b, isBlank c = true) {c : Char}
    (noBlank : isBlank c = false) {more x : List Char} {l : Lexeme}
    (scanned : scanLexeme c (more ++ x) = ⟨.ok l, c :: more, x⟩) :
    Lexed.scan p (b ++ (c :: more ++ x)) =
      (Lexed.scan ((p.after b).after (c :: more)) x).cons
        (l, ⟨p.after b, (p.after b).after (c :: more)⟩) := by
  have skipped : (b ++ (c :: more ++ x)).takeWhile isBlank = b ∧
      (b ++ (c :: more ++ x)).dropWhile isBlank = c :: (more ++ x) := by
    rw [List.takeWhile_append_of_pos blank, List.dropWhile_append_of_pos blank]
    simp [noBlank]
  rw [scan_lexeme p skipped.2, skipped.1, scanned]
  rfl

theorem lexed_first {p : Position} {cs : List Char} {l : Lexeme × Span} {ls : List (Lexeme × Span)}
    (clean : (Lexed.scan p cs).fault = none) (shape : (Lexed.scan p cs).lexemes = l :: ls) :
    ∃ blanks word rest, cs = blanks ++ (word ++ rest) ∧ (∀ c ∈ blanks, isBlank c = true) ∧
      dangles word = false ∧
      (∀ q b x, (∀ c ∈ b, isBlank c = true) → x <+: rest → Lexed.scan q (b ++ (word ++ x)) =
        (Lexed.scan ((q.after b).after word) x).cons
          (l.1, ⟨q.after b, (q.after b).after word⟩)) := by
  have blank : ∀ c ∈ cs.takeWhile isBlank, isBlank c = true := fun c => List.mem_takeWhile_imp
  cases first : cs.dropWhile isBlank with
  | nil =>
    rw [scan_only_blanks p first] at shape
    cases shape
  | cons c tail =>
    have noBlank : isBlank c = false := by
      have stop := List.head?_dropWhile_not isBlank cs
      rw [first] at stop
      simpa using stop
    rw [scan_lexeme p first] at clean shape
    dsimp only at clean shape
    cases read : (scanLexeme c tail).result with
    | error fault =>
      rw [read] at clean
      cases clean
    | ok lexeme =>
      rw [read] at shape
      obtain ⟨rfl, -⟩ := List.cons.inj shape
      obtain ⟨more, rest, rfl, whole, settled⟩ := scanLexeme_settled read
      refine ⟨_, c :: more, rest, ?_, blank, whole, fun q b x blank front => ?_⟩
      · rw [List.cons_append, ← first, List.takeWhile_append_dropWhile]
      · exact scan_next q blank noBlank (settled x front)

theorem lexed_behind {p : Position} {cs : List Char} {ls ms : List (Lexeme × Span)}
    (clean : (Lexed.scan p cs).fault = none) (shape : (Lexed.scan p cs).lexemes = ls ++ ms)
    (some : ms ≠ []) :
    ∃ a b, cs = a ++ b ∧ dangles a = false ∧ (Lexed.scan (p.after a) b).fault = none ∧
      (Lexed.scan (p.after a) b).lexemes = ms ∧ Reading.start ms = p.after a := by
  induction ls generalizing p cs with
  | nil =>
    cases ms with
    | nil => exact absurd rfl some
    | cons m ms =>
      obtain ⟨blanks, word, rest, rfl, blank, whole, settled⟩ := lexed_first clean shape
      have here := settled (p.after blanks) [] rest (by simp) (List.prefix_refl rest)
      rw [settled p blanks rest blank (List.prefix_refl rest)] at clean shape
      refine ⟨blanks, word ++ rest, rfl, dangles_blanks blank, ?_, ?_, ?_⟩
      · exact (congrArg Lexed.fault here).trans clean
      · exact (congrArg Lexed.lexemes here).trans shape
      · rw [← (List.cons.inj shape).1]
        rfl
  | cons l ls ih =>
    obtain ⟨blanks, word, rest, rfl, blank, whole, settled⟩ := lexed_first clean shape
    rw [settled p blanks rest blank (List.prefix_refl rest)] at clean shape
    obtain ⟨a, b, rfl, inside, found⟩ := ih clean (List.cons.inj shape).2
    refine ⟨blanks ++ (word ++ a), b, by simp, ?_, ?_⟩
    · rw [dangles_append (dangles_blanks blank), dangles_append whole, inside]
    · rw [Position.after_append, Position.after_append]
      exact found

theorem lexed_before {p : Position} {cs : List Char} {ms us : List (Lexeme × Span)}
    (clean : (Lexed.scan p cs).fault = none) (shape : (Lexed.scan p cs).lexemes = ms ++ us)
    (some : ms ≠ []) :
    ∃ a b, cs = a ++ b ∧ dangles a = false ∧ (Lexed.scan p a).fault = none ∧
      (Lexed.scan p a).lexemes = ms ∧ lastStop ms = p.after a := by
  induction ms generalizing p cs with
  | nil => exact absurd rfl some
  | cons m ms ih =>
    obtain ⟨blanks, word, rest, rfl, blank, whole, settled⟩ := lexed_first clean shape
    rw [settled p blanks rest blank (List.prefix_refl rest)] at clean shape
    obtain ⟨first, later⟩ := List.cons.inj shape
    cases ms with
    | nil =>
      have here := settled p blanks [] blank List.nil_prefix
      have ended := scan_only_blanks ((p.after blanks).after word) List.dropWhile_nil
      rw [ended, List.append_nil] at here
      refine ⟨blanks ++ word, rest, by simp, ?_, congrArg Lexed.fault here, ?_, ?_⟩
      · rw [dangles_append (dangles_blanks blank), whole]
      · rw [here, ← first]
        rfl
      · rw [← first, Position.after_append]
        rfl
    | cons n ms =>
      obtain ⟨a, b, rfl, inside, read, lexemes, stop⟩ := ih clean later (by simp)
      have here := settled p blanks a blank (List.prefix_append a b)
      refine ⟨blanks ++ (word ++ a), b, by simp, ?_, ?_, ?_, ?_⟩
      · rw [dangles_append (dangles_blanks blank), dangles_append whole, inside]
      · rw [here]
        exact read
      · rw [here, ← first, ← lexemes]
        rfl
      · rw [Position.after_append, Position.after_append, ← stop]
        exact lastStop_append [m] (by simp)

/-- The text from the beginning of a lexeme to the end of another has the lexemes in between. -/
theorem lexed_excerpt {p : Position} {cs : List Char} {ls ms us : List (Lexeme × Span)}
    (clean : (Lexed.scan p cs).fault = none)
    (shape : (Lexed.scan p cs).lexemes = ls ++ (ms ++ us)) (some : ms ≠ []) :
    ∃ a part b, cs = a ++ (part ++ b) ∧ dangles a = false ∧ dangles part = false ∧
      (Lexed.scan (p.after a) part).fault = none ∧ (Lexed.scan (p.after a) part).lexemes = ms ∧
      extent ms = ⟨p.after a, (p.after a).after part⟩ := by
  obtain ⟨a, rest, rfl, before, read, lexemes, start⟩ := lexed_behind clean shape (by simp [some])
  obtain ⟨part, b, rfl, inside, found, between, stop⟩ := lexed_before read lexemes some
  rw [start_append some] at start
  exact ⟨a, part, b, rfl, before, inside, found, between, by rw [extent, start, stop]⟩

end TitleTemplate
