import TitleTemplate.Proofs.Bytes.Lexemes

/-!
Where tokens and lexemes stand. The tokens of a template divide it from its beginning to its end. In
an expression, every call for a lexeme takes something or comes to the end, also after a fault, and
what it gives stands where the text that it took stands in the whole template.
-/
namespace TitleTemplate

/-- Where a beginning of a template ends: behind so many newlines, so many characters after the last
of them, and so many bytes. -/
def Position.ofPrefix (before : List Char) : Position :=
  ⟨1 + before.count '\n', (before.reverse.takeWhile (· ≠ '\n')).length, byteSize before⟩

def Position.Fits (p : Position) : Prop := p.line < 2 ^ 32 ∧ p.column < 2 ^ 32 ∧ p.offset < 2 ^ 32

instance : DecidablePred Position.Fits := fun _ => inferInstanceAs (Decidable (_ ∧ _ ∧ _))

def Position.next32? (p : Position) (c : Char) : Option Position :=
  if (p.next c).Fits then some (p.next c) else none

/-- Tokens that divide the text which stands behind `before`. -/
inductive Tiles : List Char → List (Token × Span) → List Char → Prop
  | ended (before : List Char) : Tiles before [] []
  | token {before rest : List Char} {t : Token} {ts : List (Token × Span)} (takes : t.source ≠ [])
      (later : Tiles (before ++ t.source) ts rest) :
      Tiles before ((t, ⟨.ofPrefix before, .ofPrefix (before ++ t.source)⟩) :: ts)
        (t.source ++ rest)

def Cursor.inside (inner : List Char) (span : Span) : Cursor :=
  ⟨inner, ⟨span.start.line, span.start.column + 1, span.start.offset + 1⟩⟩

/-- A cursor in a text that stands behind `before`, with what it has passed. -/
structure Cursor.Stands (before text past : List Char) (c : Cursor) : Prop where
  shape : text = past ++ c.rest
  place : c.place = .ofPrefix (before ++ past)

/-- What a call does at a cursor that has passed `past`: it passes over white space and takes some
text, or comes to the end. -/
structure Call.Advances (before past : List Char) (c : Cursor) (blanks taken : List Char)
    (call : Call) : Prop where
  shape : c.rest = blanks ++ (taken ++ call.next.rest)
  blank : ∀ d ∈ blanks, isBlank d = true
  takes : taken ≠ [] ∨ call.outcome = .ok none ∧ call.next.rest = []
  span : call.span = ⟨.ofPrefix (before ++ (past ++ blanks)),
    .ofPrefix (before ++ (past ++ (blanks ++ taken)))⟩
  place : call.next.place = call.span.stop

/-- Lexemes laid out in a text that stands behind `before`, with white space between them, up to the
end or to a text that is no lexeme. -/
inductive Laid : List Char → List Char → Lexed → Prop
  | ended {before blanks : List Char} (blank : ∀ c ∈ blanks, isBlank c = true) :
      Laid before blanks ⟨[], none, .ofPrefix (before ++ blanks)⟩
  | lexeme {before blanks taken rest : List Char} {raw : Raw} {l : Lexeme} {lexed : Lexed}
      (blank : ∀ c ∈ blanks, isBlank c = true) (takes : taken ≠ [])
      (cut : CutAs taken rest (.ok raw)) (read : raw.lexeme unescape = .ok l)
      (later : Laid (before ++ (blanks ++ taken)) rest lexed) :
      Laid before (blanks ++ (taken ++ rest))
        (lexed.cons (l, ⟨.ofPrefix (before ++ blanks), .ofPrefix (before ++ (blanks ++ taken))⟩))
  | fault {before blanks taken rest : List Char} {outcome : Except LexicalFault Raw}
      {fault : LexicalFault} (blank : ∀ c ∈ blanks, isBlank c = true) (takes : taken ≠ [])
      (cut : CutAs taken rest outcome)
      (read : outcome >>= (·.lexeme unescape) = .error fault) :
      Laid before (blanks ++ (taken ++ rest))
        ⟨[], some (fault, ⟨.ofPrefix (before ++ blanks), .ofPrefix (before ++ (blanks ++ taken))⟩),
          .ofPrefix (before ++ (blanks ++ taken))⟩

theorem ofPrefix_append (before cs : List Char) :
    (Position.ofPrefix before).after cs = .ofPrefix (before ++ cs) := by
  induction cs using List.reverseRecOn with
  | nil => rw [List.append_nil]; rfl
  | append_singleton cs c ih =>
    rw [Position.after_append, ih, ← List.append_assoc]
    change (Position.ofPrefix (before ++ cs)).next c = _
    rw [Position.next]
    split_ifs with newline
    · subst newline
      simp [Position.ofPrefix, byteSize_append, byteSize]
      omega
    · simp [Position.ofPrefix, byteSize_append, byteSize, newline, Nat.add_assoc]

theorem first_after (cs : List Char) : Position.first.after cs = .ofPrefix cs :=
  ofPrefix_append [] cs

theorem blanks_split (cs : List Char) :
    cs = cs.takeWhile isBlank ++ cs.dropWhile isBlank ∧
      ∀ c ∈ cs.takeWhile isBlank, isBlank c = true :=
  ⟨List.takeWhile_append_dropWhile.symm, fun _ => List.mem_takeWhile_imp⟩

theorem tiles_locate (before : List Char) {ts : List Token} (takes : ∀ t ∈ ts, t.source ≠ []) :
    Tiles before (Token.locate (.ofPrefix before) ts) (ts.flatMap Token.source) := by
  induction ts generalizing before with
  | nil => exact .ended before
  | cons t ts ih =>
    rw [Token.locate, ofPrefix_append, List.flatMap_cons]
    exact .token (takes t List.mem_cons_self)
      (ih (before ++ t.source) fun u member => takes u (List.mem_cons_of_mem t member))

theorem nextLexeme_advances {before text past : List Char} {c : Cursor}
    (stands : c.Stands before text past) :
    ∃ blanks taken call, c.nextLexeme = pure call ∧ call.Advances before past c blanks taken ∧
      call.next.Stands before text (past ++ (blanks ++ taken)) := by
  obtain ⟨whole, blank⟩ := blanks_split c.rest
  have start : c.start = .ofPrefix (before ++ (past ++ c.rest.takeWhile isBlank)) := by
    rw [Cursor.start, stands.place, ofPrefix_append, List.append_assoc]
  have called := nextLexeme_calls c
  generalize c.nextLexeme = call at called
  cases called with
  | ended last =>
    rw [last, List.append_nil] at whole
    refine ⟨c.rest.takeWhile isBlank, [], _, rfl, ⟨?_, blank, Or.inr ⟨rfl, rfl⟩, ?_, rfl⟩, ?_, ?_⟩
    · rw [List.append_nil, List.append_nil]
      exact whole
    · rw [List.append_nil, start]
    · rw [List.append_nil, List.append_nil, ← whole]
      exact stands.shape
    · rw [List.append_nil]
      exact start
  | took shape cut =>
    rename_i taken rest outcome
    rw [shape] at whole
    have stop : c.start.after taken =
        .ofPrefix (before ++ (past ++ (c.rest.takeWhile isBlank ++ taken))) := by
      rw [start, ofPrefix_append]
      simp only [List.append_assoc]
    refine ⟨c.rest.takeWhile isBlank, taken, _, rfl,
      ⟨whole, blank, Or.inl cut.ne_nil, ?_, rfl⟩, ?_, stop⟩
    · rw [stop, start]
    · rw [List.append_assoc, List.append_assoc, ← whole]
      exact stands.shape

theorem reaches_stands {before text : List Char} {c d : Cursor} (first : c.Stands before text [])
    (reached : c.Reaches d) : ∃ past, d.Stands before text past := by
  induction reached with
  | here => exact ⟨[], first⟩
  | next _ called ih =>
    obtain ⟨past, stands⟩ := ih
    obtain ⟨blanks, taken, call, same, -, next⟩ := nextLexeme_advances stands
    obtain rfl := Except.ok.inj (called.symm.trans same)
    exact ⟨_, next⟩

theorem laid_scan (before cs : List Char) : Laid before cs (Lexed.scan (.ofPrefix before) cs) := by
  induction size : cs.length using Nat.strongRecOn generalizing before cs with
  | ind n ih =>
    obtain ⟨whole, blank⟩ := blanks_split cs
    have called := nextLexeme_calls ⟨cs, .ofPrefix before⟩
    have start : Cursor.start ⟨cs, .ofPrefix before⟩ = .ofPrefix (before ++ cs.takeWhile isBlank) :=
      ofPrefix_append before _
    generalize Cursor.nextLexeme ⟨cs, .ofPrefix before⟩ = call at called
    cases called with
    | ended last =>
      dsimp only at last
      rw [scan_only_blanks _ last, ofPrefix_append]
      rw [last, List.append_nil] at whole
      rw [← whole]
      exact .ended (whole ▸ blank)
    | took shape cut =>
      rename_i taken rest outcome
      have scanned := scan_took shape cut
      dsimp only at shape scanned
      rw [scanned, start, ofPrefix_append, List.append_assoc]
      rw [shape] at whole
      cases result : outcome >>= (·.lexeme unescape) with
      | error fault =>
        conv => lhs; rw [whole]
        exact .fault blank cut.ne_nil cut result
      | ok l =>
        obtain ⟨raw, rfl, read⟩ := bind_eq_ok.1 result
        have shorter : rest.length < n := by
          have all := (List.dropWhile_suffix (l := cs) isBlank).length_le
          have some := List.length_pos_iff.2 cut.ne_nil
          rw [shape, List.length_append] at all
          omega
        conv => lhs; rw [whole]
        exact .lexeme blank cut.ne_nil cut read (ih rest.length shorter _ rest rfl)

theorem length_le_byteSize (cs : List Char) : cs.length ≤ byteSize cs := by
  induction cs with
  | nil => exact Nat.le_refl 0
  | cons c cs ih =>
    have positive := c.utf8Size_pos
    rw [List.length_cons, byteSize_cons]
    omega

/-- Lines count from one, and only behind so many newlines is there one too many. -/
theorem ofPrefix_fits {before : List Char} (small : byteSize before < 2 ^ 32)
    (other : before ≠ List.replicate (2 ^ 32 - 1) '\n') : (Position.ofPrefix before).Fits := by
  have newlines : before.count '\n' ≤ before.length := List.count_le_length
  have column := (List.takeWhile_sublist (· ≠ '\n') (l := before.reverse)).length_le
  rw [List.length_reverse] at column
  have length := length_le_byteSize before
  have line : before.count '\n' + 1 < 2 ^ 32 := by
    by_contra many
    have all : before.count '\n' = before.length := by omega
    have size : before.length = 2 ^ 32 - 1 := by omega
    exact other (List.eq_replicate_iff.2
      ⟨size, fun c member => (List.count_eq_length.1 all c member).symm⟩)
  exact ⟨by simp only [Position.ofPrefix]; omega, by simp only [Position.ofPrefix] at *; omega,
    small⟩

theorem next32_ofPrefix (before : List Char) (c : Char) :
    (Position.ofPrefix before).next32? c =
      if (Position.ofPrefix (before ++ [c])).Fits then some (.ofPrefix (before ++ [c]))
      else none := by
  rw [Position.next32?, ← ofPrefix_append before [c]]
  rfl

theorem apart_of_longer {before : List Char} {c : Char}
    (small : byteSize (before ++ [c]) < 2 ^ 32) : before ≠ List.replicate (2 ^ 32 - 1) '\n' := by
  intro same
  have length := length_le_byteSize before
  have positive := c.utf8Size_pos
  rw [same, List.length_replicate] at length
  rw [byteSize_append, byteSize_cons, same] at small
  omega

theorem counted_in_32 {before : List Char} (small : byteSize before < 2 ^ 32)
    (other : before ≠ List.replicate (2 ^ 32 - 1) '\n') :
    before.foldlM Position.next32? .first = some (.ofPrefix before) := by
  induction before using List.reverseRecOn with
  | nil => rfl
  | append_singleton before c ih =>
    have shorter : byteSize before < 2 ^ 32 := by
      rw [byteSize_append] at small
      omega
    rw [List.foldlM_append, ih shorter (apart_of_longer small), Option.bind_eq_bind,
      Option.bind_some, List.foldlM_cons, next32_ofPrefix, if_pos (ofPrefix_fits small other)]
    rfl

/-- The tokens of a template tile it, and positions in it are counted in 32 bits: all but the last
of a template of nothing but newlines, as many as there are lines. Every call for a lexeme of an
expression gives something, and either comes to the end or takes some text; and what is read up to
the first fault is laid out in the expression. All stands where the text in the whole template
stands. -/
theorem lexing_tiles_template (template : String) (small : byteSize template.toList < 2 ^ 32) :
    Cursor.tokensAfter [] ⟨template.toList, .first⟩ = pure (Token.ofTemplate template) ∧
    Tiles [] (Token.ofTemplate template) template.toList ∧
    (∀ before, before <+: template.toList → before ≠ List.replicate (2 ^ 32 - 1) '\n' →
      (Position.ofPrefix before).Fits ∧
      before.foldlM Position.next32? .first = some (.ofPrefix before)) ∧
    ∀ inner span, (.expression inner, span) ∈ Token.ofTemplate template →
      ∃ before after, template.toList = before ++ (braced inner ++ after) ∧
        span = ⟨.ofPrefix before, .ofPrefix (before ++ braced inner)⟩ ∧
        (∀ c, (Cursor.inside inner span).Reaches c → ∃ past blanks taken call,
          c.Stands (before ++ ['\x7b']) inner past ∧ c.nextLexeme = pure call ∧
          call.Advances (before ++ ['\x7b']) past c blanks taken) ∧
        ∃ lexed, (Cursor.inside inner span).lexemesAfter unescape [] = pure lexed ∧
          lexed = Lexed.ofExpression span.start inner ∧ Laid (before ++ ['\x7b']) inner lexed := by
  refine ⟨tokensAfter_scan [] _, ?_, fun before begins other => ?_, ?_⟩
  · have tiles := tiles_locate [] fun t (member : t ∈ Token.scan template.toList) =>
      Token.source_ne_nil member
    rwa [Token.scan_source] at tiles
  · have shorter : byteSize before < 2 ^ 32 := by
      obtain ⟨rest, whole⟩ := begins
      rw [← whole, byteSize_append] at small
      omega
    exact ⟨ofPrefix_fits shorter other, counted_in_32 shorter other⟩
  · intro inner span member
    obtain ⟨before, after, shape, covers⟩ := token_covers member
    obtain rfl : span = ⟨.ofPrefix before, .ofPrefix (before ++ braced inner)⟩ := by
      rw [covers, first_after, ofPrefix_append]
      rfl
    have first : Cursor.inside inner ⟨.ofPrefix before, .ofPrefix (before ++ braced inner)⟩ =
        ⟨inner, .ofPrefix (before ++ ['\x7b'])⟩ :=
      congrArg (Cursor.mk inner) (ofPrefix_append before ['\x7b'])
    refine ⟨before, after, shape, rfl, fun c reached => ?_, _, ?_, rfl, ?_⟩
    · rw [first] at reached
      obtain ⟨past, stands⟩ := reaches_stands ⟨rfl, by rw [List.append_nil]⟩ reached
      obtain ⟨blanks, taken, call, called, advances, -⟩ := nextLexeme_advances stands
      exact ⟨past, blanks, taken, call, stands, called, advances⟩
    · exact lexemesAfter_scan [] _ fun _ _ => rfl
    · have laid := laid_scan (before ++ ['\x7b']) inner
      rwa [← ofPrefix_append before ['\x7b']] at laid

theorem lexing_tiles_template_short :
    ['a'].foldlM Position.next32? .first = some (.ofPrefix ['a']) ∧
      ∃ before past blanks taken call, Cursor.nextLexeme ⟨[' ', 'b'], ⟨1, 2, 2⟩⟩ = pure call ∧
        call.Advances before past ⟨[' ', 'b'], ⟨1, 2, 2⟩⟩ blanks taken := by
  obtain ⟨-, -, counted, expressions⟩ := lexing_tiles_template "a\x7b b\x7d" (by decide)
  have member : (.expression [' ', 'b'], ⟨⟨1, 1, 1⟩, ⟨1, 5, 5⟩⟩) ∈
      Token.ofTemplate "a\x7b b\x7d" := by decide +kernel
  obtain ⟨before, -, -, -, calls, -⟩ := expressions _ _ member
  obtain ⟨past, blanks, taken, call, -, called, advances⟩ := calls _ .here
  have other : ['a'] ≠ List.replicate (2 ^ 32 - 1) '\n' := fun same => by
    have length := congrArg List.length same
    rw [List.length_replicate] at length
    exact absurd length (by decide)
  exact ⟨(counted ['a'] (by decide) other).2, _, past, blanks, taken, call, called, advances⟩

theorem ofPrefix_newlines (n : Nat) :
    Position.ofPrefix (List.replicate n '\n') = ⟨1 + n, 0, n⟩ := by
  have size : byteSize (List.replicate n '\n') = n := by
    induction n with
    | zero => rfl
    | succ n ih => rw [List.replicate_succ, byteSize_cons, ih, Nat.add_comm]; rfl
  have column : (List.replicate n '\n').takeWhile (· ≠ '\n') = [] := by
    cases n with
    | zero => rfl
    | succ n => rfl
  rw [Position.ofPrefix, List.count_replicate_self, List.reverse_replicate, column, size]
  rfl

theorem ofTemplate_newlines (n : Nat) :
    Token.ofTemplate (String.ofList (List.replicate (n + 1) '\n')) =
      [(.text (List.replicate (n + 1) '\n'),
        ⟨.first, .ofPrefix (List.replicate (n + 1) '\n')⟩)] := by
  have scanned : Token.scan (List.replicate (n + 1) '\n') =
      [.text (List.replicate (n + 1) '\n')] := by
    have plain : ∀ d ∈ List.replicate (n + 1) '\n', isOpen d = false := by
      intro d member
      rw [List.eq_of_mem_replicate member]
      rfl
    rw [List.replicate_succ] at plain ⊢
    have run : Token.scan ('\n' :: List.replicate n '\n' ++ []) = _ := Token.scan_run plain nofun
    rw [List.append_nil] at run
    rw [run, Token.scan_nil]
  rw [Token.ofTemplate, String.toList_ofList, scanned, ← first_after]
  rfl

/-- As many newlines as there are lines are a text of less than four gigabytes, but the line behind
them has no number. -/
theorem newlines_uncounted {n : Nat} (last : n + 1 = 2 ^ 32 - 1) :
    byteSize (List.replicate (n + 1) '\n') < 2 ^ 32 ∧
      (List.replicate (n + 1) '\n').foldlM Position.next32? .first = none ∧
      ¬(Position.ofPrefix (List.replicate (n + 1) '\n')).Fits := by
  have small : byteSize (List.replicate (n + 1) '\n') < 2 ^ 32 := by
    have size := congrArg Position.offset (ofPrefix_newlines (n + 1))
    rw [Position.ofPrefix] at size
    dsimp only at size
    omega
  have past : ¬(Position.ofPrefix (List.replicate (n + 1) '\n')).Fits := by
    rw [ofPrefix_newlines]
    rintro ⟨line, -⟩
    dsimp only at line
    omega
  refine ⟨small, ?_, past⟩
  rw [List.replicate_succ'] at small past ⊢
  have shorter : byteSize (List.replicate n '\n') < 2 ^ 32 := by
    rw [byteSize_append] at small
    omega
  rw [List.foldlM_append, counted_in_32 shorter (apart_of_longer small), Option.bind_eq_bind,
    Option.bind_some, List.foldlM_cons, next32_ofPrefix, if_neg past]
  rfl

/-- Lines count from one, so that a line has a number one higher than the newlines before it; and in
a template of as many newlines as there are lines, which is small enough, the end of its only token
has no number in 32 bits. -/
theorem last_line_uncounted :
    (∃ token span, Token.ofTemplate "a" = [(token, span)] ∧ span.start.line ≠ [].count '\n') ∧
    byteSize (List.replicate (2 ^ 32 - 1) '\n') < 2 ^ 32 ∧
    (List.replicate (2 ^ 32 - 1) '\n').foldlM Position.next32? .first = none ∧
    ∃ token span,
      Token.ofTemplate (String.ofList (List.replicate (2 ^ 32 - 1) '\n')) = [(token, span)] ∧
      span.stop = .ofPrefix (List.replicate (2 ^ 32 - 1) '\n') ∧ ¬span.stop.Fits := by
  refine ⟨⟨.text ['a'], ⟨⟨1, 0, 0⟩, ⟨1, 1, 1⟩⟩, by decide +kernel, by decide⟩, ?_⟩
  obtain ⟨n, last⟩ : ∃ n, 2 ^ 32 - 1 = n + 1 := ⟨2 ^ 32 - 2, rfl⟩
  obtain ⟨small, uncounted, past⟩ := newlines_uncounted last.symm
  rw [last]
  exact ⟨small, uncounted, _, _, ofTemplate_newlines n, rfl, past⟩

end TitleTemplate
