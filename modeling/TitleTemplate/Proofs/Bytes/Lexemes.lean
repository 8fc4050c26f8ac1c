import Mathlib.Data.List.Find
import TitleTemplate.Proofs.Bytes.Tokens

/-!
The lexemes of an expression, read with a cursor that divides the text by bytes. A call passes over
white space and takes one lexeme, whatever comes of it. What a call takes is named before its
escapes are resolved, so that the texts the escapes of which are resolved can be spoken of.
-/
namespace TitleTemplate

inductive Raw where
  | symbol (l : Lexeme)
  | word (text : List Char)
  | quoted (text : List Char)

abbrev Resolver : Type := List Char → Except EscapeFault (List Char)

/-- A text with its escapes resolved by `resolve`, or the text itself when it has none. -/
def spelledBy (resolve : Resolver) (unescaped : String → Lexeme) (cs : List Char) :
    Except LexicalFault Lexeme :=
  if '\\' ∈ cs then
    match resolve cs with
    | .ok text => .ok (.text (String.ofList text) true)
    | .error fault => .error (.escape fault)
  else .ok (unescaped (String.ofList cs))

def Raw.lexeme (resolve : Resolver) : Raw → Except LexicalFault Lexeme
  | .symbol l => .ok l
  | .word text => spelledBy resolve .word text
  | .quoted text => spelledBy resolve (.text · false) text

def symbols : List (List Char × Lexeme) := [
  (['!', '='], .compare .ne), (['>', '='], .compare .gte), (['<', '='], .compare .lte),
  (['=', '='], .compare .eq), (['='], .compare .eq), (['>'], .compare .gt), (['<'], .compare .lt),
  (['~'], .compare .contains), (['|'], .pipe), (['('], .parenOpen), ([')'], .parenClose),
  ([','], .comma)]

/-- How many bytes a word has, and whether it ends in a backslash that hides what comes next. -/
def wordLength (hidden : Bool) : List Char → Nat × Bool
  | [] => (0, hidden)
  | c :: cs =>
    if !hidden && c != '\\' && endsWordAt c then (0, hidden)
    else
      let later := wordLength (!hidden && c == '\\') cs
      (c.utf8Size + later.1, later.2)

structure Call where
  outcome : Except LexicalFault (Option Raw)
  span : Span
  next : Cursor

def Call.lexeme (resolve : Resolver) (call : Call) : Except LexicalFault (Option Lexeme) :=
  call.outcome.bind fun
    | none => .ok none
    | some raw => (raw.lexeme resolve).map some

instance : Nonempty Lexed := ⟨⟨[], none, .first⟩⟩

namespace Cursor

def skipBlanks (c : Cursor) : Sliced Cursor := do
  return (← c.advance (byteSize (c.rest.takeWhile isBlank))).2

def take (c : Cursor) (bytes : Nat) (outcome : List Char → Except LexicalFault Raw) :
    Sliced Call := do
  let (taken, next) ← c.advance bytes
  return ⟨(outcome taken).map some, ⟨c.place, next.place⟩, next⟩

def takeWord (c : Cursor) : Sliced Call :=
  let (length, hidden) := wordLength false c.rest
  c.take length fun word => if hidden then .error .danglingBackslash else .ok (.word word)

def takeQuoted (c : Cursor) (quote : Char) : Sliced Call := do
  let bytes := utf8 c.rest
  let (length, hidden) := scanTo (mark quote) false (bytes.drop 1)
  if hidden ∨ bytes[length + 1]? ≠ some (mark quote) then
    c.take bytes.length fun _ => .error .unclosedText
  else
    let (taken, next) ← c.advance (length + 2)
    let inner ← between taken 1 (byteSize taken - 1)
    return ⟨.ok (some (.quoted inner)), ⟨c.place, next.place⟩, next⟩

def takeLexeme (c : Cursor) : Sliced Call :=
  let bytes := utf8 c.rest
  match symbols.find? fun s => (utf8 s.1).isPrefixOf bytes with
  | some s => c.take (utf8 s.1).length fun _ => .ok (.symbol s.2)
  | none =>
    if bytes.head? = some (mark '\'') then c.takeQuoted '\''
    else if bytes.head? = some (mark '"') then c.takeQuoted '"'
    else if bytes.head? = some (mark '!') then c.take 1 fun _ => .error .loneExclamation
    else c.takeWord

def nextLexeme (c : Cursor) : Sliced Call := do
  let c ← c.skipBlanks
  if c.rest = [] then return ⟨.ok none, ⟨c.place, c.place⟩, c⟩ else c.takeLexeme

/-- Calls for lexemes until there is none or a fault, with those read so far in reverse. -/
def lexemesAfter (resolve : Resolver) (read : List (Lexeme × Span)) (c : Cursor) : Sliced Lexed :=
  (c, read) |> repeatM fun (c, read) => do
    let call ← c.nextLexeme
    match call.lexeme resolve with
    | .ok none => return .inr ⟨read.reverse, none, call.next.place⟩
    | .ok (some l) => return .inl (call.next, (l, call.span) :: read)
    | .error fault => return .inr ⟨read.reverse, some (fault, call.span), call.next.place⟩

def start (c : Cursor) : Position := c.place.after (c.rest.takeWhile isBlank)

end Cursor

theorem wordLength_split (cs : List Char) :
    wordLength false cs = (byteSize (splitWord cs).1, dangles (splitWord cs).1) := by
  fun_induction splitWord cs with
  | case1 => rfl
  | case2 c cs word ih =>
    simp [wordLength, ih, word, byteSize_cons, dangles]
  | case3 c cs noEscape ends =>
    have plain : c ≠ '\\' := by
      rintro rfl
      exact absurd ends (by decide)
    simp [wordLength, plain, ends, byteSize, dangles]
  | case4 c cs noEscape inside word ih =>
    by_cases escape : c = '\\'
    · -- The backslash is the last character there is.
      subst escape
      cases cs with
      | cons d cs => exact absurd rfl (noEscape d cs rfl)
      | nil => rfl
    · have plain : (c == '\\') = false := beq_false_of_ne escape
      simp [wordLength, plain, inside, ih, word, byteSize_cons, dangles_cons escape]

theorem splitWord_first {c : Char} (inside : endsWordAt c = false) (cs : List Char) :
    splitWord (c :: cs) = (c :: (splitWordAfter c cs).1, (splitWordAfter c cs).2) := by
  rw [splitWordAfter.eq_def]
  by_cases escape : c = '\\'
  · subst escape
    cases cs <;> simp [splitWord, inside]
  · rw [if_neg escape, splitWord, inside]
    · simp
    · rintro d rest rfl
      exact absurd rfl escape

theorem isPrefixOf_utf8 {ms : List Char} (narrow : ∀ m ∈ ms, m.toNat < 128) (cs : List Char) :
    (utf8 ms).isPrefixOf (utf8 cs) = ms.isPrefixOf cs := by
  induction ms generalizing cs with
  | nil => simp [utf8]
  | cons m ms ih =>
    have one := narrow m List.mem_cons_self
    rw [utf8_narrow one]
    cases cs with
    | nil => rfl
    | cons c cs =>
      by_cases same : c = m
      · subst same
        rw [utf8_narrow one, List.isPrefixOf_cons_cons, List.isPrefixOf_cons_cons, beq_self_eq_true,
          beq_self_eq_true, ih fun n member => narrow n (List.mem_cons_of_mem c member)]
      · have apart : (utf8 (c :: cs)).head? ≠ some (mark m) := by
          rw [Ne, head?_utf8 _ one]
          simpa using same
        rw [List.isPrefixOf_cons_cons, beq_false_of_ne (Ne.symm same), Bool.false_and]
        cases bytes : utf8 (c :: cs) with
        | nil => rfl
        | cons b bs =>
          rw [bytes] at apart
          have other : mark m ≠ b := fun same => apart (congrArg some same.symm)
          rw [List.isPrefixOf_cons_cons, beq_false_of_ne other, Bool.false_and]

/-- How a text that does not begin with white space is cut: what is taken of it, what is left, and
what comes of it. -/
inductive CutAs : List Char → List Char → Except LexicalFault Raw → Prop
  | symbol {s : List Char × Lexeme} {rest : List Char}
      (found : symbols.find? (·.1.isPrefixOf (s.1 ++ rest)) = some s) :
      CutAs s.1 rest (.ok (.symbol s.2))
  | lone {rest : List Char} (apart : rest.head? ≠ some '=') :
      CutAs ['!'] rest (.error .loneExclamation)
  | word {c : Char} {more rest : List Char} (inside : endsWordAt c = false)
      (split : splitWordAfter c (more ++ rest) = (more, rest))
      (whole : dangles (c :: more) = false) : CutAs (c :: more) rest (.ok (.word (c :: more)))
  | dangling {c : Char} {more rest : List Char} (inside : endsWordAt c = false)
      (split : splitWordAfter c (more ++ rest) = (more, rest))
      (part : dangles (c :: more) = true) :
      CutAs (c :: more) rest (.error .danglingBackslash)
  | quoted {quote : Char} {inner rest : List Char} (quotes : quote = '\'' ∨ quote = '"')
      (split : splitQuoted quote (inner ++ quote :: rest) = some (inner, rest)) :
      CutAs (quote :: (inner ++ [quote])) rest (.ok (.quoted inner))
  | unclosed {quote : Char} {cs : List Char} (quotes : quote = '\'' ∨ quote = '"')
      (split : splitQuoted quote cs = none) : CutAs (quote :: cs) [] (.error .unclosedText)

theorem scanLexeme_symbol {s : List Char × Lexeme} {c : Char} {cs rest : List Char}
    (found : symbols.find? (·.1.isPrefixOf (s.1 ++ rest)) = some s)
    (shape : s.1 ++ rest = c :: cs) :
    scanLexeme c cs = ⟨.ok s.2, s.1, rest⟩ := by
  have member := List.mem_of_find?_eq_some found
  simp only [symbols, List.mem_cons, List.not_mem_nil, or_false] at member
  rcases member with rfl | rfl | rfl | rfl | rfl | rfl | rfl | rfl | rfl | rfl | rfl | rfl
  all_goals
    obtain ⟨rfl, rfl⟩ := List.cons.inj shape
  case inr.inr.inr.inr.inl | inr.inr.inr.inr.inr.inl | inr.inr.inr.inr.inr.inr.inl =>
    refine scanLexeme_single (by decide) fun begins => ?_
    obtain ⟨others, rfl⟩ := List.head?_eq_some_iff.1 begins
    simp [symbols] at found
  all_goals rfl

theorem not_symbol {c : Char} {cs : List Char}
    (none : symbols.find? (·.1.isPrefixOf (c :: cs)) = none) :
    c ∉ ['|', '(', ')', ',', '=', '<', '>', '~'] ∧ (c = '!' → cs.head? ≠ some '=') := by
  rw [List.find?_eq_none] at none
  have apart (s : List Char × Lexeme) (member : s ∈ symbols) : ¬ s.1 <+: c :: cs := by
    rw [← List.isPrefixOf_iff_prefix]
    exact none s member
  constructor
  · intro member
    have begins : ∃ l, ([c], l) ∈ symbols := by
      simp only [List.mem_cons, List.not_mem_nil, or_false] at member
      rcases member with rfl | rfl | rfl | rfl | rfl | rfl | rfl | rfl <;>
        exact ⟨_, by simp [symbols]; rfl⟩
    obtain ⟨l, member⟩ := begins
    exact apart _ member (List.prefix_append [c] cs)
  · rintro rfl begins
    obtain ⟨others, rfl⟩ := List.head?_eq_some_iff.1 begins
    exact apart (['!', '='], .compare .ne) (by simp [symbols])
      (List.prefix_append ['!', '='] others)

/-- The program takes a lexeme, or what is there instead, and goes on behind it. -/
def Cursor.Takes (c : Cursor) (call : Sliced Call) : Prop :=
  ∃ taken rest outcome, c.rest = taken ++ rest ∧ CutAs taken rest outcome ∧
    call = pure ⟨outcome.map some, ⟨c.place, c.place.after taken⟩, ⟨rest, c.place.after taken⟩⟩

theorem take_takes {c : Cursor} {taken rest : List Char} (shape : c.rest = taken ++ rest)
    {outcome : List Char → Except LexicalFault Raw} (cut : CutAs taken rest (outcome taken)) :
    c.Takes (c.take (byteSize taken) outcome) := by
  refine ⟨taken, rest, outcome taken, shape, cut, ?_⟩
  rw [Cursor.take, advance_append shape, pure_bind]

theorem takeWord_takes {c : Cursor} {d : Char} {cs : List Char} (shape : c.rest = d :: cs)
    (inside : endsWordAt d = false) : c.Takes c.takeWord := by
  obtain ⟨more, rest, split⟩ : ∃ more rest, splitWordAfter d cs = (more, rest) := ⟨_, _, rfl⟩
  have whole : more ++ rest = cs := by
    have whole := splitWordAfter_append d cs
    rwa [split] at whole
  subst whole
  have length : wordLength false c.rest = (byteSize (d :: more), dangles (d :: more)) := by
    rw [wordLength_split, shape, splitWord_first inside, split]
  rw [Cursor.takeWord, length]
  refine take_takes shape ?_
  cases part : dangles (d :: more) with
  | true => exact .dangling inside split part
  | false => exact .word inside split part

theorem takeQuoted_takes {c : Cursor} {quote : Char} {cs : List Char}
    (quotes : quote = '\'' ∨ quote = '"') (shape : c.rest = quote :: cs) :
    c.Takes (c.takeQuoted quote) := by
  have narrow : quote.toNat < 128 := by rcases quotes with rfl | rfl <;> decide
  have plain : quote ≠ '\\' := by rcases quotes with rfl | rfl <;> decide
  have bytes : utf8 c.rest = mark quote :: utf8 cs := by rw [shape, utf8_narrow narrow]
  have scanned := scanTo_utf8 narrow plain cs
  rw [Cursor.takeQuoted, bytes, List.drop_succ_cons, List.drop_zero]
  dsimp only
  rw [List.getElem?_cons_succ]
  cases split : splitQuoted quote cs with
  | none =>
    rw [split] at scanned
    have beyond : (utf8 cs)[byteSize cs]? = none := by
      rw [← length_utf8, List.getElem?_eq_none_iff]
    have size : (mark quote :: utf8 cs).length = byteSize c.rest := by rw [← bytes, length_utf8]
    rw [scanned, beyond, if_pos (Or.inr (by simp)), size]
    exact take_takes (List.append_nil c.rest).symm (shape ▸ .unclosed quotes split)
  | some parts =>
    obtain ⟨inner, rest⟩ := parts
    obtain rfl := splitQuoted_append split
    rw [split] at scanned
    have closes : (utf8 (inner ++ quote :: rest))[byteSize inner]? = some (mark quote) := by
      rw [utf8_append, utf8_narrow narrow, ← length_utf8, List.getElem?_append_right le_rfl,
        Nat.sub_self]
      rfl
    have cutShape : c.rest = quote :: (inner ++ [quote]) ++ rest := by rw [shape]; simp
    have one : quote.utf8Size = 1 := utf8Size_narrow narrow
    have size : byteSize inner + 2 = byteSize (quote :: (inner ++ [quote])) := by
      simp only [byteSize, byteSize_append, one]
      omega
    have advanced := advance_append cutShape
    rw [scanned]
    dsimp only
    rw [closes, if_neg (by simp), size, advanced, pure_bind]
    exact ⟨_, rest, _, cutShape, .quoted quotes split,
      congrArg (· >>= _) (between_inside one one inner)⟩

theorem takeLexeme_takes {c : Cursor} {d : Char} {cs : List Char} (shape : c.rest = d :: cs)
    (noBlank : isBlank d = false) : c.Takes c.takeLexeme := by
  have narrow : ∀ s ∈ symbols, ∀ m ∈ s.1, m.toNat < 128 := by simp [symbols]
  have same : (symbols.find? fun s => (utf8 s.1).isPrefixOf (utf8 c.rest)) =
      symbols.find? (·.1.isPrefixOf c.rest) :=
    List.find?_congr fun s member => isPrefixOf_utf8 (narrow s member) c.rest
  rw [Cursor.takeLexeme, same]
  cases found : symbols.find? (·.1.isPrefixOf c.rest) with
  | some s =>
    have begins : s.1.isPrefixOf c.rest := by
      have begins := List.find?_some found
      exact begins
    obtain ⟨rest, shape⟩ := List.isPrefixOf_iff_prefix.1 begins
    rw [← shape] at found
    dsimp only
    rw [length_utf8]
    exact take_takes shape.symm (.symbol found)
  | none =>
    dsimp only
    rw [shape] at found
    obtain ⟨other, apart⟩ := not_symbol found
    have head (m : Char) (narrow : m.toNat < 128) :
        (utf8 c.rest).head? = some (mark m) ↔ d = m := by
      rw [head?_utf8 _ narrow, shape, List.head?_cons, Option.some_inj]
    simp only [head '\'' (by decide), head '"' (by decide), head '!' (by decide)]
    split_ifs with single double exclamation
    · subst single
      exact takeQuoted_takes (Or.inl rfl) shape
    · subst double
      exact takeQuoted_takes (Or.inr rfl) shape
    · subst exclamation
      have taken : c.rest = ['!'] ++ cs := shape
      exact take_takes taken (.lone (apart rfl))
    · refine takeWord_takes shape ?_
      rw [endsWordAt, noBlank]
      simp_all

theorem skipBlanks_pure (c : Cursor) :
    c.skipBlanks = pure ⟨c.rest.dropWhile isBlank, c.start⟩ := by
  rw [Cursor.skipBlanks, advance_append List.takeWhile_append_dropWhile.symm]
  rfl

/-- What a call does: it comes to the end, or takes something behind the white space. -/
inductive Cursor.Calls (c : Cursor) : Sliced Call → Prop
  | ended (blank : c.rest.dropWhile isBlank = []) :
      Calls c (pure ⟨.ok none, ⟨c.start, c.start⟩, ⟨[], c.start⟩⟩)
  | took {taken rest : List Char} {outcome : Except LexicalFault Raw}
      (shape : c.rest.dropWhile isBlank = taken ++ rest) (cut : CutAs taken rest outcome) :
      Calls c (pure ⟨outcome.map some, ⟨c.start, c.start.after taken⟩,
        ⟨rest, c.start.after taken⟩⟩)

theorem nextLexeme_calls (c : Cursor) : c.Calls c.nextLexeme := by
  rw [Cursor.nextLexeme, skipBlanks_pure, pure_bind]
  dsimp only
  cases first : c.rest.dropWhile isBlank with
  | nil =>
    rw [if_pos rfl]
    exact .ended first
  | cons d cs =>
    have noBlank : isBlank d = false := by
      have stop := List.head?_dropWhile_not isBlank c.rest
      rw [first] at stop
      simpa using stop
    obtain ⟨taken, rest, outcome, shape, cut, call⟩ :=
      takeLexeme_takes (c := ⟨d :: cs, c.start⟩) rfl noBlank
    rw [if_neg (List.cons_ne_nil d cs), call]
    exact .took (first.trans shape) cut

theorem CutAs.ne_nil {taken rest : List Char} {outcome : Except LexicalFault Raw}
    (cut : CutAs taken rest outcome) : taken ≠ [] := by
  cases cut with
  | symbol found =>
    have some : ∀ s ∈ symbols, s.1 ≠ [] := by decide
    exact some _ (List.mem_of_find?_eq_some found)
  | lone | word | dangling | quoted | unclosed => exact List.cons_ne_nil _ _

theorem scanLexeme_quote {quote : Char} (quotes : quote = '\'' ∨ quote = '"') (cs : List Char) :
    scanLexeme quote cs = scanQuoted quote cs := by
  rcases quotes with rfl | rfl <;> rfl

theorem CutAs.scanned {taken rest : List Char} {outcome : Except LexicalFault Raw}
    (cut : CutAs taken rest outcome) {c : Char} {cs : List Char} (shape : taken ++ rest = c :: cs) :
    scanLexeme c cs = ⟨outcome >>= (·.lexeme unescape), taken, rest⟩ := by
  cases cut with
  | symbol found => exact scanLexeme_symbol found shape
  | lone apart =>
    obtain ⟨rfl, rfl⟩ := List.cons.inj shape
    rw [scanLexeme.eq_def]
    split <;> simp_all
    rfl
  | word inside split whole =>
    obtain ⟨rfl, rfl⟩ := List.cons.inj shape
    rw [scanLexeme_word inside, scanWord]
    simp only [List.append_eq, split, whole]
    rfl
  | dangling inside split part =>
    obtain ⟨rfl, rfl⟩ := List.cons.inj shape
    rw [scanLexeme_word inside, scanWord]
    simp only [List.append_eq, split, part]
    rfl
  | quoted quotes split =>
    obtain ⟨rfl, rfl⟩ := List.cons.inj shape
    rw [scanLexeme_quote quotes, scanQuoted, List.append_eq, List.append_assoc,
      List.singleton_append, split]
    rfl
  | unclosed quotes split =>
    obtain ⟨rfl, rfl⟩ := List.cons.inj shape
    rw [scanLexeme_quote quotes, scanQuoted, List.append_eq, List.append_nil, split]
    rfl

theorem scan_took {c : Cursor} {taken rest : List Char} {outcome : Except LexicalFault Raw}
    (shape : c.rest.dropWhile isBlank = taken ++ rest) (cut : CutAs taken rest outcome) :
    Lexed.scan c.place c.rest =
      match outcome >>= (·.lexeme unescape) with
      | .error fault =>
        ⟨[], some (fault, ⟨c.start, c.start.after taken⟩), c.start.after taken⟩
      | .ok l =>
        (Lexed.scan (c.start.after taken) rest).cons (l, ⟨c.start, c.start.after taken⟩) := by
  obtain ⟨d, cs, first⟩ := List.exists_cons_of_ne_nil
    (List.append_ne_nil_of_left_ne_nil cut.ne_nil rest)
  rw [scan_lexeme c.place (shape.trans first), cut.scanned first]
  rfl

theorem call_took {outcome : Except LexicalFault Raw} {resolve : Resolver} {span : Span}
    {next : Cursor} :
    Call.lexeme resolve ⟨outcome.map some, span, next⟩ =
      (outcome >>= (·.lexeme resolve)).map some := by
  cases outcome <;> rfl

/-- The cursors that calls for lexemes come to, whatever the calls give. -/
inductive Cursor.Reaches (c : Cursor) : Cursor → Prop
  | here : Reaches c c
  | next {d : Cursor} {call : Call} (reached : Reaches c d) (called : d.nextLexeme = pure call) :
      Reaches c call.next

/-- A call that is made from a cursor, sooner or later. -/
def Cursor.Meets (c : Cursor) (call : Call) : Prop := ∃ d, c.Reaches d ∧ d.nextLexeme = pure call

theorem reaches_later {c d : Cursor} {call : Call} (called : c.nextLexeme = pure call)
    (reached : call.next.Reaches d) : c.Reaches d := by
  induction reached with
  | here => exact .next .here called
  | next _ again ih => exact .next ih again

theorem meets_later {c : Cursor} {call later : Call} (called : c.nextLexeme = pure call)
    (meets : call.next.Meets later) : c.Meets later := by
  obtain ⟨d, reached, last⟩ := meets
  exact ⟨d, reaches_later called reached, last⟩

/-- All lexemes are read, by whatever resolves the escapes of the texts that are met as they are
resolved. -/
theorem lexemesAfter_scan {resolve : Resolver} (read : List (Lexeme × Span)) (c : Cursor)
    (same : ∀ call, c.Meets call → call.lexeme resolve = call.lexeme unescape) :
    c.lexemesAfter resolve read =
      pure { Lexed.scan c.place c.rest with
        lexemes := read.reverse ++ (Lexed.scan c.place c.rest).lexemes } := by
  induction size : c.rest.length using Nat.strongRecOn generalizing c read with
  | ind n ih =>
    have called := nextLexeme_calls c
    generalize next : c.nextLexeme = call at called
    cases called with
    | ended blank =>
      refine repeat_ends ?_
      dsimp only
      rw [next, pure_bind, scan_only_blanks c.place blank, List.append_nil]
      rfl
    | took shape cut =>
      rename_i taken rest outcome
      have here := same _ ⟨c, .here, next⟩
      rw [scan_took shape cut]
      cases result : outcome >>= (·.lexeme unescape) with
      | error fault =>
        refine repeat_ends ?_
        dsimp only
        rw [next, pure_bind, here, call_took, result, List.append_nil]
        rfl
      | ok l =>
        have shorter : rest.length < n := by
          have all := (List.dropWhile_suffix (l := c.rest) isBlank).length_le
          have some := List.length_pos_iff.2 cut.ne_nil
          rw [shape, List.length_append] at all
          omega
        have later := ih rest.length shorter ((l, ⟨c.start, c.start.after taken⟩) :: read)
          ⟨rest, c.start.after taken⟩ (fun call meets => same call (meets_later next meets)) rfl
        refine ((repeat_again ?_).trans later).trans ?_
        · dsimp only
          rw [next, pure_bind, here, call_took, result]
          rfl
        · simp [Lexed.cons]

end TitleTemplate
