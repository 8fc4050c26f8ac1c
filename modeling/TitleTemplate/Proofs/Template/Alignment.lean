import TitleTemplate.Proofs.Template.Bodies
import TitleTemplate.Proofs.Template.Faults
import TitleTemplate.Proofs.Template.Tiling
import TitleTemplate.Proofs.Text.Escapes

/-!
Escapes are kept track of in several scans: for the end of an expression, for the end of a word or
of a quoted text, and when escapes are resolved. They agree on what a backslash hides. Where one
lexeme has ended, the scan for the end of the expression hides nothing; so no backslash is left
without a character to hide, in a word or in a text whose escapes are resolved.
-/
namespace TitleTemplate

/-- The scan for the end of an expression passes over all of a text, and then hides nothing. -/
def Passed (cs : List Char) : Prop :=
  scanTo (mark '\x7d') false (utf8 cs) = ((utf8 cs).length, false)

/-- A backslash takes the meaning of every closing brace in a text away. -/
def HidesCloses (cs : List Char) : Prop := ∀ a b, cs = a ++ '\x7d' :: b → dangles a = true

/-- Resolves escapes with another answer where a text ends in a backslash that hides nothing. -/
def unescapeEndingFrom (last : Except EscapeFault (List Char)) (pending : Option Nat) : Resolver
  | [] => if pending.isNone then .ok [] else .error .malformed
  | '\\' :: 'u' :: a :: b :: c :: d :: rest =>
    match hexUnit? a b c d with
    | none => .error .badUnit
    | some unit =>
      match pending, isSurrogate unit with
      | none, false => do return Char.ofNat unit :: (← unescapeEndingFrom last none rest)
      | none, true => unescapeEndingFrom last (some unit) rest
      | some _, false => .error .malformed
      | some high, true =>
        match surrogatePair? high unit with
        | some char => do return char :: (← unescapeEndingFrom last none rest)
        | none => .error .malformed
  | '\\' :: 'u' :: _ => .error .badUnit
  | ['\\'] => last
  | '\\' :: c :: rest =>
    match escaped? c, pending with
    | some char, none => do return char :: (← unescapeEndingFrom last none rest)
    | _, _ => .error .malformed
  | c :: rest =>
    match pending with
    | none => do return c :: (← unescapeEndingFrom last none rest)
    | some _ => .error .malformed

def unescapeEnding (last : Except EscapeFault (List Char)) : Resolver :=
  unescapeEndingFrom last none

structure Call.Aligned (past : List Char) (c : Cursor) (blanks taken : List Char) (call : Call) :
    Prop where
  shape : c.rest = blanks ++ (taken ++ call.next.rest)
  before : Passed past
  begins : Passed (past ++ blanks)
  hidden : HidesCloses taken
  whole : call.outcome ≠ .error .danglingBackslash
  resolved : ∀ last, call.lexeme (unescapeEnding last) = call.lexeme unescape

theorem dangles_of_enclosed {cs : List Char} (enclosed : Enclosed cs) : dangles cs = false := by
  fun_induction dangles cs with
  | case1 => rfl
  | case2 =>
    have ends := enclosed ['\x7d']
    simp [splitAtClose] at ends
  | case3 c cs ih => exact ih (enclosed_rest (enclosed_escape c) enclosed)
  | case4 c cs notLast noEscape ih =>
    have char := enclosed_char (noClose_of_enclosed enclosed) (noEscape_of_more noEscape notLast)
    exact ih (enclosed_rest char enclosed)

theorem passed_of_enclosed {cs : List Char} (enclosed : Enclosed cs) : Passed cs := by
  have none : splitAtClose cs = none := by
    have nothing := enclosed []
    rwa [List.append_nil] at nothing
  rw [Passed, scanTo_utf8 (by decide) (by decide), ← splitAtClose_eq_splitQuoted, none,
    dangles_of_enclosed enclosed, length_utf8]

theorem hidesCloses_of_enclosed {cs : List Char} (enclosed : Enclosed cs) : HidesCloses cs := by
  rintro a b rfl
  by_contra whole
  rw [Bool.not_eq_true] at whole
  exact noClose_of_enclosed (enclosed_parts whole enclosed).2 rfl

/-- Only at the end of all text a word can end in a backslash that hides nothing. -/
theorem splitWord_dangles {cs w rest : List Char} (split : splitWord cs = (w, rest))
    (part : dangles w = true) : rest = [] := by
  fun_induction splitWord cs generalizing w rest with
  | case1 => exact (Prod.mk.inj split).2.symm
  | case2 c cs word =>
    rename_i ih
    obtain ⟨rfl, rfl⟩ := Prod.mk.inj split
    exact ih rfl part
  | case3 c cs noEscape ends =>
    obtain ⟨rfl, rfl⟩ := Prod.mk.inj split
    cases part
  | case4 c cs noEscape inside word =>
    rename_i ih
    obtain ⟨rfl, rfl⟩ := Prod.mk.inj split
    by_cases escape : c = '\\'
    · subst escape
      cases cs with
      | cons d cs => exact absurd rfl (noEscape d cs rfl)
      | nil => rfl
    · rw [dangles_cons escape] at part
      exact ih rfl part

theorem splitWordAfter_dangles {c : Char} {cs w rest : List Char}
    (split : splitWordAfter c cs = (w, rest)) (part : dangles (c :: w) = true) : rest = [] := by
  unfold splitWordAfter at split
  by_cases escape : c = '\\'
  · rw [if_pos escape] at split
    subst escape
    cases cs with
    | nil => exact (Prod.mk.inj split).2.symm
    | cons d cs =>
      obtain ⟨rfl, rfl⟩ := Prod.mk.inj split
      exact splitWord_dangles (Prod.eta (splitWord cs)).symm (by simpa [dangles] using part)
  · rw [if_neg escape] at split
    rw [dangles_cons escape] at part
    exact splitWord_dangles split part

theorem splitQuoted_whole {quote : Char} {cs inner rest : List Char}
    (split : splitQuoted quote cs = some (inner, rest)) : dangles inner = false := by
  fun_induction splitQuoted quote cs generalizing inner rest with
  | case1 => cases split
  | case2 c cs ih =>
    obtain ⟨⟨a, b⟩, later, same⟩ := Option.map_eq_some_iff.1 split
    obtain ⟨rfl, rfl⟩ := Prod.mk.inj same
    simpa [dangles] using ih later
  | case3 cs noEscape =>
    obtain ⟨rfl, rfl⟩ := Prod.mk.inj (Option.some.inj split)
    rfl
  | case4 c cs noEscape other ih =>
    obtain ⟨⟨a, b⟩, later, same⟩ := Option.map_eq_some_iff.1 split
    obtain ⟨rfl, rfl⟩ := Prod.mk.inj same
    have unescaped := noEscape_of_more noEscape fun _ none => by simp [none, splitQuoted] at later
    rw [dangles_cons unescaped]
    exact ih later

theorem quote_plain {quote : Char} (quotes : quote = '\'' ∨ quote = '"') : quote ≠ '\\' := by
  rcases quotes with rfl | rfl <;> decide

theorem CutAs.whole {taken rest : List Char} {outcome : Except LexicalFault Raw}
    (cut : CutAs taken rest outcome) (enclosed : Enclosed (taken ++ rest)) :
    dangles taken = false := by
  cases cut with
  | symbol found =>
    have plain : ∀ s ∈ symbols, dangles s.1 = false := by decide
    exact plain _ (List.mem_of_find?_eq_some found)
  | lone => rfl
  | word inside split whole => exact whole
  | dangling inside split part =>
    rw [splitWordAfter_dangles split part, List.append_nil] at enclosed
    exact dangles_of_enclosed enclosed
  | quoted quotes split =>
    rw [dangles_cons (quote_plain quotes)]
    exact (splitQuoted_cut (quote_plain quotes) split []).2
  | unclosed => exact dangles_of_enclosed (by rwa [List.append_nil] at enclosed)

theorem CutAs.not_dangling {taken rest : List Char} {outcome : Except LexicalFault Raw}
    (cut : CutAs taken rest outcome) (whole : dangles taken = false) :
    outcome ≠ .error .danglingBackslash := by
  cases cut with
  | dangling inside split part =>
    rw [part] at whole
    cases whole
  | symbol | lone | word | quoted | unclosed => simp

/-! The end of a text whose escapes are resolved. -/

theorem unescapeEndingFrom_malformed (pending : Option Nat) (cs : List Char) :
    unescapeEndingFrom (.error .malformed) pending cs = unescapeFrom pending cs := by
  fun_induction unescapeFrom pending cs <;> simp_all [unescapeEndingFrom]

theorem dangles_unit {a b c d : Char} {unit : Nat} (read : hexUnit? a b c d = some unit)
    (rest : List Char) : dangles (a :: b :: c :: d :: rest) = dangles rest := by
  have plain : a ≠ '\\' ∧ b ≠ '\\' ∧ c ≠ '\\' ∧ d ≠ '\\' := by
    rcases hexUnit_iff.1 read with ⟨_, _, _, _, first, second, third, fourth, _⟩ |
      ⟨rfl, _, _, _, _, _, second, third, fourth, _⟩
    · exact ⟨(ne_of_hexDigit first).1, (ne_of_hexDigit second).1, (ne_of_hexDigit third).1,
        (ne_of_hexDigit fourth).1⟩
    · exact ⟨by decide, (ne_of_hexDigit second).1, (ne_of_hexDigit third).1,
        (ne_of_hexDigit fourth).1⟩
  rw [dangles_cons plain.1, dangles_cons plain.2.1, dangles_cons plain.2.2.1,
    dangles_cons plain.2.2.2]

theorem unescapeEndingFrom_whole {cs : List Char} (whole : dangles cs = false)
    (pending : Option Nat) (last other : Except EscapeFault (List Char)) :
    unescapeEndingFrom last pending cs = unescapeEndingFrom other pending cs := by
  fun_induction unescapeEndingFrom last pending cs
  case case4 read _ ih | case5 read _ ih =>
    rw [dangles, dangles_unit read] at whole
    simp_all [unescapeEndingFrom]
  case case7 read _ _ _ _ ih =>
    rw [dangles, dangles_unit read] at whole
    simp_all [unescapeEndingFrom]
  all_goals simp_all [unescapeEndingFrom, dangles]

theorem unescapeEnding_whole {cs : List Char} (whole : dangles cs = false)
    (last : Except EscapeFault (List Char)) : unescapeEnding last cs = unescape cs := by
  rw [unescapeEnding, unescapeEndingFrom_whole whole none last (.error .malformed),
    unescapeEndingFrom_malformed]
  rfl

theorem spelledBy_congr {resolve other : Resolver} {cs : List Char}
    (same : resolve cs = other cs) (unescaped : String → Lexeme) :
    spelledBy resolve unescaped cs = spelledBy other unescaped cs := by
  rw [spelledBy, spelledBy, same]

/-- The texts that are handed over to have their escapes resolved do not end in such a backslash. -/
theorem CutAs.resolved {taken rest : List Char} {outcome : Except LexicalFault Raw}
    (cut : CutAs taken rest outcome) (last : Except EscapeFault (List Char)) :
    outcome >>= (·.lexeme (unescapeEnding last)) = outcome >>= (·.lexeme unescape) := by
  cases cut with
  | symbol | lone | dangling | unclosed => rfl
  | word inside split whole => exact spelledBy_congr (unescapeEnding_whole whole last) .word
  | quoted quotes split =>
    exact spelledBy_congr (unescapeEnding_whole (splitQuoted_whole split) last) (.text · false)

theorem nextLexeme_aligned {past : List Char} {c : Cursor} (before : Enclosed past)
    (behind : Enclosed c.rest) :
    ∃ blanks taken call, c.nextLexeme = pure call ∧ call.Aligned past c blanks taken ∧
      Enclosed (past ++ (blanks ++ taken)) ∧ Enclosed call.next.rest := by
  obtain ⟨whole, blank⟩ := blanks_split c.rest
  rw [whole] at behind
  obtain ⟨blanks, later⟩ := enclosed_parts (dangles_blanks blank) behind
  have begins := enclosed_append before blanks
  have called := nextLexeme_calls c
  generalize c.nextLexeme = call at called
  cases called with
  | ended last =>
    refine ⟨c.rest.takeWhile isBlank, [], _, rfl, ⟨?_, passed_of_enclosed before,
      passed_of_enclosed begins, hidesCloses_of_enclosed enclosed_nil, by simp, fun _ => rfl⟩,
      ?_, enclosed_nil⟩
    · rw [List.append_nil, ← last]
      exact whole
    · rwa [List.append_nil]
  | took shape cut =>
    rename_i taken rest outcome
    rw [shape] at whole later
    have free := cut.whole later
    obtain ⟨inside, after⟩ := enclosed_parts free later
    refine ⟨c.rest.takeWhile isBlank, taken, _, rfl, ⟨whole, passed_of_enclosed before,
      passed_of_enclosed begins, hidesCloses_of_enclosed inside, ?_, fun last => ?_⟩, ?_, after⟩
    · have other := cut.not_dangling free
      cases outcome with
      | ok raw => exact nofun
      | error fault => simpa [Except.map] using other
    · rw [call_took, call_took, cut.resolved last]
    · rw [← List.append_assoc]
      exact enclosed_append begins inside

theorem reaches_enclosed {inner : List Char} {c d : Cursor} (first : c.rest = inner)
    (enclosed : Enclosed inner) (reached : c.Reaches d) :
    ∃ past, inner = past ++ d.rest ∧ Enclosed past ∧ Enclosed d.rest := by
  induction reached with
  | here => exact ⟨[], first.symm, enclosed_nil, first ▸ enclosed⟩
  | next _ called ih =>
    obtain ⟨past, shape, before, behind⟩ := ih
    obtain ⟨blanks, taken, call, same, aligned, passed, later⟩ := nextLexeme_aligned before behind
    obtain rfl := Except.ok.inj (called.symm.trans same)
    refine ⟨past ++ (blanks ++ taken), ?_, passed, later⟩
    rw [shape, aligned.shape]
    simp only [List.append_assoc]

theorem spelledBy_error {resolve : Resolver} {unescaped : String → Lexeme} {cs : List Char}
    {f : LexicalFault} (failed : spelledBy resolve unescaped cs = .error f) :
    ∃ e, f = .escape e := by
  unfold spelledBy at failed
  split at failed
  · split at failed
    · cases failed
    · exact ⟨_, (Except.error.inj failed).symm⟩
  · cases failed

theorem lexeme_error {resolve : Resolver} {raw : Raw} {f : LexicalFault}
    (failed : raw.lexeme resolve = .error f) : ∃ e, f = .escape e := by
  cases raw with
  | symbol => cases failed
  | word | quoted =>
    rw [Raw.lexeme] at failed
    exact spelledBy_error failed

theorem laid_not_dangling {before text : List Char} {lexed : Lexed} (laid : Laid before text lexed)
    (enclosed : Enclosed text) (span : Span) :
    lexed.fault ≠ some (.danglingBackslash, span) := by
  induction laid with
  | ended => exact nofun
  | lexeme blank _ cut _ _ ih =>
    have behind := (enclosed_parts (dangles_blanks blank) enclosed).2
    exact ih (enclosed_parts (cut.whole behind) behind).2
  | fault blank _ cut read =>
    have behind := (enclosed_parts (dangles_blanks blank) enclosed).2
    intro same
    obtain rfl := (Prod.mk.inj (Option.some.inj same)).1
    rcases bind_eq_error.1 read with dangling | ⟨raw, -, unresolved⟩
    · exact cut.not_dangling (cut.whole behind) dangling
    · obtain ⟨e, other⟩ := lexeme_error unresolved
      cases other

theorem expression_lexical {limit : Nat} {inner : List Char} {span : Span} {p : Progress}
    {fault : Fault} {f : LexicalFault} (failed : p.expression limit inner span = .error fault)
    (lexical : fault.cause = .lexical f) :
    (Lexed.ofExpression span.start inner).fault = some (f, fault.span) := by
  rw [expression_eq_takeIn] at failed
  rcases bind_eq_error.1 failed with deep | ⟨_, _, failed⟩
  · unfold Progress.checkDepth at deep
    split at deep
    · obtain rfl := Except.error.inj deep
      cases lexical
    · cases deep
  rcases bind_eq_error.1 failed with unread | ⟨item, _, unplaced⟩
  · cases item_reports unread with
    | lexical ends =>
      obtain ⟨⟨e, s⟩, found, rfl⟩ := Option.map_eq_some_iff.1 ends
      obtain rfl := Cause.lexical.inj lexical
      exact found
    | whole _ own => exact absurd lexical (own f)
    | word => cases lexical
  · exact absurd lexical ((place_fault unplaced).2.1 f)

theorem parse_lexical {limit : Nat} {template : String} {fault : Fault} {f : LexicalFault}
    (failed : parse limit template = .error fault) (lexical : fault.cause = .lexical f) :
    ∃ inner span, (.expression inner, span) ∈ Token.ofTemplate template ∧
      (Lexed.ofExpression span.start inner).fault = some (f, fault.span) := by
  rcases bind_eq_error.1 failed with unread | ⟨p, _, unfinished⟩
  · obtain ⟨before, ⟨t, span⟩, after, q, located, -, found⟩ := exists_first_error unread
    have member : (t, span) ∈ Token.ofTemplate template :=
      located ▸ List.mem_append_right _ List.mem_cons_self
    cases t with
    | text | brace => cases found
    | expression inner => exact ⟨inner, span, member, expression_lexical found lexical⟩
  · obtain ⟨nodes, blocks⟩ := p
    cases blocks with
    | nil => cases unfinished
    | cons b blocks =>
      obtain rfl := Except.error.inj unfinished
      cases lexical

/-- In every expression of a template, the scan for its end hides nothing where a lexeme has
ended or begins, whatever the calls for lexemes give, and no closing brace stands for itself. So
no word ends in a backslash that hides nothing, and what such a backslash would be resolved to
makes no difference to what is read; reading a template never fails for one. -/
theorem escapes_stay_aligned (template : String) :
    (∀ inner span, (.expression inner, span) ∈ Token.ofTemplate template →
      HidesCloses inner ∧
      (∀ c, (Cursor.inside inner span).Reaches c → ∃ past blanks taken call,
        inner = past ++ c.rest ∧ c.nextLexeme = pure call ∧ call.Aligned past c blanks taken) ∧
      ∀ last, (Cursor.inside inner span).lexemesAfter (unescapeEnding last) [] =
        pure (Lexed.ofExpression span.start inner)) ∧
    ∀ limit span, parse limit template ≠ .error ⟨.lexical .danglingBackslash, span⟩ := by
  have enclosed {inner : List Char} {span : Span}
      (member : (.expression inner, span) ∈ Token.ofTemplate template) : Enclosed inner :=
    (Token.enclosed_of_scan (mem_scan_of_template member)).1
  constructor
  · intro inner span member
    have aligned (c : Cursor) (reached : (Cursor.inside inner span).Reaches c) :
        ∃ past blanks taken call, inner = past ++ c.rest ∧ c.nextLexeme = pure call ∧
          call.Aligned past c blanks taken := by
      obtain ⟨past, shape, before, behind⟩ := reaches_enclosed rfl (enclosed member) reached
      obtain ⟨blanks, taken, call, called, aligned, -, -⟩ := nextLexeme_aligned before behind
      exact ⟨past, blanks, taken, call, shape, called, aligned⟩
    refine ⟨hidesCloses_of_enclosed (enclosed member), aligned, fun last => ?_⟩
    refine lexemesAfter_scan [] (Cursor.inside inner span) fun call meets => ?_
    obtain ⟨c, reached, called⟩ := meets
    obtain ⟨_, _, _, other, _, same, aligned⟩ := aligned c reached
    obtain rfl := Except.ok.inj (called.symm.trans same)
    exact aligned.resolved last
  · intro limit span failed
    obtain ⟨inner, place, member, lexical⟩ := parse_lexical failed rfl
    obtain ⟨before, after, shape, covers⟩ := token_covers member
    have start : place.start.next '\x7b' = .ofPrefix (before ++ ['\x7b']) := by
      rw [covers, first_after]
      exact ofPrefix_append before ['\x7b']
    rw [Lexed.ofExpression, start] at lexical
    exact laid_not_dangling (laid_scan (before ++ ['\x7b']) inner) (enclosed member) span lexical

theorem escapes_stay_aligned_brace :
    let inner := ['a', '\\', '\x7d', 'b']
    HidesCloses inner ∧ ∃ past blanks taken call,
      Cursor.nextLexeme ⟨inner, ⟨1, 1, 1⟩⟩ = pure call ∧
        call.Aligned past ⟨inner, ⟨1, 1, 1⟩⟩ blanks taken := by
  have member : (.expression ['a', '\\', '\x7d', 'b'], ⟨⟨1, 0, 0⟩, ⟨1, 6, 6⟩⟩) ∈
      Token.ofTemplate "\x7ba\\\x7db\x7d" := by decide +kernel
  obtain ⟨hidden, calls, -⟩ := (escapes_stay_aligned _).1 _ _ member
  obtain ⟨past, blanks, taken, call, -, called, aligned⟩ := calls _ .here
  exact ⟨hidden, past, blanks, taken, call, called, aligned⟩

end TitleTemplate
