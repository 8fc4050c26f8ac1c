import Mathlib.Data.List.Forall2
import TitleTemplate.Proofs.Template.Conditions
import TitleTemplate.Proofs.Template.Lexing
import TitleTemplate.Proofs.Template.Tokens
import TitleTemplate.Proofs.Text.Blanks

/-!
The pieces of a template: texts, and what its expressions ask for. An expression is well formed by
itself when it is an operand, a condition after `if` or `elif`, `else` or `/if`. A template can be
read just when all its expressions are well formed and their pieces can be put in their places one
after the other, unless conditionals or conditions nest deeper than the limit.
-/
namespace TitleTemplate

/-- A text with a first word that goes on to white space or to the end. -/
def BeginsWith (word : String) (inner : List Char) : Prop :=
  ∃ before after, inner = before ++ (word.toList ++ after) ∧ AllBlank before ∧
    ∀ c ∈ after.head?, isBlank c = true

def IsAlone (word : String) (inner : List Char) : Prop :=
  ∃ before after, inner = before ++ (word.toList ++ after) ∧ AllBlank before ∧ AllBlank after

/-- What an expression is for, by its text. -/
inductive Directs (inner : List Char) : Directive → Prop
  | openIf (begins : BeginsWith "if" inner) : Directs inner .openIf
  | elseIf (begins : BeginsWith "elif" inner) : Directs inner .elseIf
  | otherwise (alone : IsAlone "else" inner) : Directs inner .otherwise
  | closeIf (alone : IsAlone "/if" inner) : Directs inner .closeIf
  | output (noIf : ¬BeginsWith "if" inner) (noElif : ¬BeginsWith "elif" inner)
      (noElse : ¬IsAlone "else" inner) (noEnd : ¬IsAlone "/if" inner) : Directs inner .output

/-- What an expression that is well formed asks for. -/
inductive Asks (inner : List Char) (lexed : Lexed) : Item → Prop
  | output {o : Operand} (kind : Directs inner .output) (clean : lexed.fault = none)
      (operand : IsOperand lexed.lexemes o) : Asks inner lexed (.output o)
  | openIf {word : Span} {ls : List (Lexeme × Span)} {guard : Condition} {m : Scope → Bool}
      (kind : Directs inner .openIf) (clean : lexed.fault = none)
      (shape : lexed.lexemes = (.word "if", word) :: ls) (condition : IsDisjunction ls guard m) :
      Asks inner lexed (.openIf guard)
  | elseIf {word : Span} {ls : List (Lexeme × Span)} {guard : Condition} {m : Scope → Bool}
      (kind : Directs inner .elseIf) (clean : lexed.fault = none)
      (shape : lexed.lexemes = (.word "elif", word) :: ls) (condition : IsDisjunction ls guard m) :
      Asks inner lexed (.elseIf guard)
  | otherwise (kind : Directs inner .otherwise) : Asks inner lexed .otherwise
  | closeIf (kind : Directs inner .closeIf) : Asks inner lexed .closeIf

theorem first_word_iff {inner after : List Char} {word : String} (some : word.toList ≠ [])
    (solid : ∀ c ∈ word.toList, (!isBlank c) = true) :
    String.ofList ((skipBlanks inner).takeWhile (!isBlank ·)) = word ∧
        (skipBlanks inner).dropWhile (!isBlank ·) = after ↔
      (∃ before, inner = before ++ (word.toList ++ after) ∧ AllBlank before) ∧
        ∀ c ∈ after.head?, isBlank c = true := by
  constructor
  · rintro ⟨rfl, rfl⟩
    obtain ⟨before, whole, blank⟩ := skipBlanks_split inner
    refine ⟨⟨before, ?_, blank⟩, fun c first => ?_⟩
    · rw [String.toList_ofList, List.takeWhile_append_dropWhile]
      exact whole
    · have stops := List.head?_dropWhile_not (!isBlank ·) (skipBlanks inner)
      rw [Option.mem_def.1 first] at stops
      simpa using stops
  · rintro ⟨⟨before, rfl, blank⟩, ends⟩
    have first : ∀ c ∈ (word.toList ++ after).head?, isBlank c = false := by
      obtain ⟨c, cs, shape⟩ := List.exists_cons_of_ne_nil some
      rw [shape] at solid ⊢
      rintro _ ⟨⟩
      simpa using solid c List.mem_cons_self
    obtain ⟨taken, left⟩ := while_taken solid (fun c first => by simp [ends c first])
    rw [skipBlanks_append blank first, taken, left, String.ofList_toList]
    exact ⟨rfl, rfl⟩

theorem begins_iff (word : String) (inner : List Char) (some : word.toList ≠ [])
    (solid : ∀ c ∈ word.toList, (!isBlank c) = true) :
    String.ofList ((skipBlanks inner).takeWhile (!isBlank ·)) = word ↔ BeginsWith word inner := by
  constructor
  · intro found
    obtain ⟨⟨before, whole, blank⟩, ends⟩ := (first_word_iff some solid).1 ⟨found, rfl⟩
    exact ⟨before, _, whole, blank, ends⟩
  · rintro ⟨before, after, whole, blank, ends⟩
    exact ((first_word_iff some solid).2 ⟨⟨before, whole, blank⟩, ends⟩).1

theorem alone_iff (word : String) (inner : List Char) (some : word.toList ≠ [])
    (solid : ∀ c ∈ word.toList, (!isBlank c) = true) :
    String.ofList ((skipBlanks inner).takeWhile (!isBlank ·)) = word ∧
        ((skipBlanks inner).dropWhile (!isBlank ·)).all isBlank = true ↔ IsAlone word inner := by
  constructor
  · rintro ⟨found, blanks⟩
    obtain ⟨⟨before, whole, blank⟩, _⟩ := (first_word_iff some solid).1 ⟨found, rfl⟩
    exact ⟨before, _, whole, blank, List.all_eq_true.1 blanks⟩
  · rintro ⟨before, after, whole, blank, blanks⟩
    obtain ⟨found, rfl⟩ := (first_word_iff some solid).2
      ⟨⟨before, whole, blank⟩, fun c first => blanks c (List.mem_of_mem_head? first)⟩
    exact ⟨found, List.all_eq_true.2 blanks⟩

theorem directive_iff {inner : List Char} {d : Directive} :
    Directive.of inner = d ↔ Directs inner d := by
  have ifs := begins_iff "if" inner (by decide) (List.all_eq_true.1 (by decide))
  have elifs := begins_iff "elif" inner (by decide) (List.all_eq_true.1 (by decide))
  have elses := alone_iff "else" inner (by decide) (List.all_eq_true.1 (by decide))
  have ends := alone_iff "/if" inner (by decide) (List.all_eq_true.1 (by decide))
  constructor
  · rintro rfl
    simp only [Directive.of]
    split_ifs with opens divides last closes
    · exact .openIf (ifs.1 opens)
    · exact .elseIf (elifs.1 divides)
    · exact .otherwise (elses.1 last)
    · exact .closeIf (ends.1 closes)
    · exact .output (mt ifs.2 opens) (mt elifs.2 divides) (mt elses.2 last) (mt ends.2 closes)
  · intro directs
    simp only [Directive.of]
    cases directs with
    | openIf begins => rw [if_pos (ifs.2 begins)]
    | elseIf begins =>
      rw [elifs.2 begins]
      rfl
    | otherwise alone =>
      obtain ⟨found, blanks⟩ := elses.2 alone
      rw [found, blanks]
      rfl
    | closeIf alone =>
      obtain ⟨found, blanks⟩ := ends.2 alone
      rw [found, blanks]
      rfl
    | output noIf noElif noElse noEnd =>
      rw [if_neg (mt ifs.1 noIf), if_neg (mt elifs.1 noElif), if_neg (mt elses.1 noElse),
        if_neg (mt ends.1 noEnd)]

theorem lexemes_length (p : Position) (cs : List Char) :
    (Lexed.scan p cs).lexemes.length ≤ cs.length := by
  induction size : cs.length using Nat.strongRecOn generalizing p cs with
  | ind n ih =>
    cases first : cs.dropWhile isBlank with
    | nil =>
      rw [scan_only_blanks p first]
      exact Nat.zero_le _
    | cons c tail =>
      have shorter : (scanLexeme c tail).rest.length < n := by
        have one := scanLexeme_length c tail
        have two := (List.dropWhile_suffix (l := cs) isBlank).length_le
        rw [first] at two
        omega
      rw [scan_lexeme p first]
      dsimp only
      cases (scanLexeme c tail).result with
      | error fault => exact Nat.zero_le _
      | ok lexeme =>
        have later := ih _ shorter ((p.after (cs.takeWhile isBlank)).after
          (scanLexeme c tail).taken) (scanLexeme c tail).rest rfl
        rw [List.length_cons]
        omega

theorem first_word (p : Position) {inner : List Char} {c : Char} {w : List Char}
    (word : ∀ d ∈ c :: w, isWordChar d = true)
    (keyword : String.ofList ((skipBlanks inner).takeWhile (!isBlank ·)) =
      String.ofList (c :: w)) :
    ∃ span ls, (Lexed.scan p inner).lexemes = (.word (String.ofList (c :: w)), span) :: ls := by
  have spelled : (inner.dropWhile isBlank).takeWhile (!isBlank ·) = c :: w :=
    String.ofList_injective keyword
  obtain ⟨tail, rest⟩ : ∃ tail, (inner.dropWhile isBlank).dropWhile (!isBlank ·) = tail := ⟨_, rfl⟩
  have first : inner.dropWhile isBlank = c :: (w ++ tail) := by
    rw [← List.takeWhile_append_dropWhile (p := (!isBlank ·)) (l := inner.dropWhile isBlank),
      spelled, rest, List.cons_append]
  -- The keyword goes on to a blank or to the end, and so does the word that is read there.
  have ends : EndsWord tail := by
    intro d member
    have blank := List.head?_dropWhile_not (!isBlank ·) (inner.dropWhile isBlank)
    rw [rest] at blank
    cases tail with
    | nil => cases member
    | cons e tail =>
      obtain rfl := Option.some.inj member
      simp_all [endsWordAt]
  rw [scan_lexeme p first]
  simp only [scanLexeme_whole_word (unbroken_of_word word) ends]
  exact ⟨_, _, rfl⟩

theorem word_of_openIf (p : Position) {inner : List Char} (kind : Directive.of inner = .openIf) :
    ∃ span ls, (Lexed.scan p inner).lexemes = (.word "if", span) :: ls := by
  refine first_word p (c := 'i') (w := ['f']) (List.all_eq_true.1 (by decide)) ?_
  grind [Directive.of]

theorem word_of_elseIf (p : Position) {inner : List Char} (kind : Directive.of inner = .elseIf) :
    ∃ span ls, (Lexed.scan p inner).lexemes = (.word "elif", span) :: ls := by
  refine first_word p (c := 'e') (w := ['l', 'i', 'f']) (List.all_eq_true.1 (by decide)) ?_
  grind [Directive.of]

theorem reading_clean (limit : Nat) (span : Span) {lexed : Lexed} :
    (lexed.reading limit span).fault = none ↔ lexed.fault = none :=
  Option.map_eq_none_iff

theorem guarded_sound {limit : Nat} {span : Span} {lexed : Lexed} {keyword : String}
    {guard : Condition} (begins : ∃ word ls, lexed.lexemes = (.word keyword, word) :: ls)
    (read : (lexed.reading limit span).guarded keyword lexed.lexemes = .ok guard) :
    lexed.fault = none ∧ ∃ word ls m,
      lexed.lexemes = (.word keyword, word) :: ls ∧ IsDisjunction ls guard m := by
  obtain ⟨word, ls, shape⟩ := begins
  rw [shape, Reading.guarded, List.drop_one, List.tail_cons] at read
  cases ls with
  | nil => cases fault : (lexed.reading limit span).fault <;> simp [fault] at read
  | cons first ls =>
    obtain ⟨clean, m, condition⟩ := Reading.condition_sound read
    exact ⟨(reading_clean limit span).1 clean, word, first :: ls, m, shape, condition⟩

theorem guarded_eqWhen (limit : Nat) (span : Span) {lexed : Lexed} (keyword : String)
    {guard : Condition} {word : Lexeme × Span} {ls : List (Lexeme × Span)} {m : Scope → Bool}
    (clean : lexed.fault = none) (shape : lexed.lexemes = word :: ls)
    (condition : IsDisjunction ls guard m) :
    EqWhen (guard.negations < limit)
      ((lexed.reading limit span).guarded keyword lexed.lexemes) (.ok guard) := by
  rw [shape, Reading.guarded, List.drop_one, List.tail_cons]
  cases ls with
  | nil => exact absurd rfl (disjunction_ne_nil condition)
  | cons first ls =>
    exact Reading.condition_eqWhen (r := lexed.reading limit span) condition
      ((reading_clean limit span).2 clean)

theorem not_blank_of_asks {p : Position} {inner : List Char} {item : Item}
    (asks : Asks inner (Lexed.scan p inner) item) : inner.all isBlank = false := by
  by_contra blank
  rw [Bool.not_eq_false] at blank
  have output := directive_of_blank blank
  cases asks with
  | output kind clean operand =>
    have nothing : inner.dropWhile isBlank = [] := by
      rw [List.dropWhile_eq_nil_iff]
      simpa using blank
    rw [scan_only_blanks p nothing] at operand
    exact operand_ne_nil operand rfl
  | openIf kind | elseIf kind | otherwise kind | closeIf kind =>
    cases output.symm.trans (directive_iff.2 kind)

theorem item_sound {limit : Nat} {inner : List Char} {p : Position} {span : Span} {item : Item}
    (found : Item.read limit inner (Lexed.scan p inner) span = .ok item) :
    Asks inner (Lexed.scan p inner) item := by
  unfold Item.read at found
  split at found
  · cases found
  cases kind : Directive.of inner with
  | output =>
    rw [kind] at found
    obtain ⟨o, read, found⟩ := bind_eq_ok.1 found
    obtain rfl := Except.ok.inj found
    obtain ⟨clean, operand⟩ := Reading.output_iff.1 read
    exact .output (directive_iff.1 kind) ((reading_clean limit span).1 clean) operand
  | openIf =>
    rw [kind] at found
    obtain ⟨guard, read, found⟩ := bind_eq_ok.1 found
    obtain rfl := Except.ok.inj found
    obtain ⟨clean, _, _, _, shape, condition⟩ := guarded_sound (word_of_openIf p kind) read
    exact .openIf (directive_iff.1 kind) clean shape condition
  | elseIf =>
    rw [kind] at found
    obtain ⟨guard, read, found⟩ := bind_eq_ok.1 found
    obtain rfl := Except.ok.inj found
    obtain ⟨clean, _, _, _, shape, condition⟩ := guarded_sound (word_of_elseIf p kind) read
    exact .elseIf (directive_iff.1 kind) clean shape condition
  | otherwise =>
    rw [kind] at found
    obtain rfl := Except.ok.inj found
    exact .otherwise (directive_iff.1 kind)
  | closeIf =>
    rw [kind] at found
    obtain rfl := Except.ok.inj found
    exact .closeIf (directive_iff.1 kind)

def Item.guard? : Item → Option Condition
  | .openIf guard | .elseIf guard => some guard
  | .output _ | .otherwise | .closeIf => none

theorem item_eqWhen (limit : Nat) {inner : List Char} {p : Position} {item : Item}
    (asks : Asks inner (Lexed.scan p inner) item) (span : Span) :
    EqWhen (∀ guard ∈ item.guard?, guard.negations < limit)
      (Item.read limit inner (Lexed.scan p inner) span) (.ok item) := by
  rw [Item.read, if_neg (by rw [not_blank_of_asks asks]; exact Bool.false_ne_true)]
  cases asks with
  | output kind clean operand =>
    have read := Reading.output_iff.2 ⟨(reading_clean limit span).2 clean, operand⟩
    rw [directive_iff.2 kind]
    simp only [read]
    exact eqWhen_refl (by simp [Item.guard?]) _
  | openIf kind clean shape condition =>
    rw [directive_iff.2 kind]
    have read := guarded_eqWhen limit span "if" clean shape condition
    exact eqWhen_of_iff (by simp [Item.guard?])
      (eqWhen_bind read fun guard => pure (Item.openIf guard))
  | elseIf kind clean shape condition =>
    rw [directive_iff.2 kind]
    have read := guarded_eqWhen limit span "elif" clean shape condition
    exact eqWhen_of_iff (by simp [Item.guard?])
      (eqWhen_bind read fun guard => pure (Item.elseIf guard))
  | otherwise kind =>
    rw [directive_iff.2 kind]
    exact eqWhen_refl (by simp [Item.guard?]) _
  | closeIf kind =>
    rw [directive_iff.2 kind]
    exact eqWhen_refl (by simp [Item.guard?]) _

theorem guard_negations {p : Position} {inner : List Char} {item : Item} {guard : Condition}
    (asks : Asks inner (Lexed.scan p inner) item) (brings : guard ∈ item.guard?) :
    guard.negations < inner.length := by
  have counted := lexemes_length p inner
  cases asks with
  | output | otherwise | closeIf => cases brings
  | openIf kind clean shape condition | elseIf kind clean shape condition =>
    obtain rfl := Option.some.inj brings
    have short := disjunction_negations condition
    rw [shape, List.length_cons] at counted
    omega

inductive Piece where
  | text (chars : List Char)
  | item (asked : Item)

/-- The piece that a token is, when it is well formed by itself. -/
inductive IsPiece : Token × Span → Piece × Span → Prop
  | text (chars : List Char) (span : Span) : IsPiece (.text chars, span) (.text chars, span)
  | brace (span : Span) : IsPiece (.brace, span) (.text ['\x7b'], span)
  | expression {inner : List Char} {item : Item} (span : Span)
      (asks : Asks inner (Lexed.ofExpression span.start inner) item) :
      IsPiece (.expression inner, span) (.item item, span)

def Progress.takePiece (p : Progress) (piece : Piece × Span) : Except Fault Progress :=
  match piece.1 with
  | .text chars => .ok (p.modifyBody (appendText chars piece.2))
  | .item asked => p.place asked piece.2

/-- What taking in a piece can do. -/
inductive Takes : Piece × Span → Progress → Progress → Prop
  | text (chars : List Char) (span : Span) (p : Progress) :
      Takes (.text chars, span) p (p.modifyBody (appendText chars span))
  | output (o : Operand) (span : Span) (p : Progress) :
      Takes (.item (.output o), span) p (p.modifyBody (.output o span :: ·))
  | openIf (guard : Condition) (span : Span) (nodes : List Node) (blocks : List OpenBlock) :
      Takes (.item (.openIf guard), span) ⟨nodes, blocks⟩
        ⟨nodes, ⟨span, [], some guard, []⟩ :: blocks⟩
  | elseIf (guard : Condition) (span opened : Span) (finished : List (Condition × List Node))
      (before : Condition) (body nodes : List Node) (blocks : List OpenBlock) :
      Takes (.item (.elseIf guard), span) ⟨nodes, ⟨opened, finished, some before, body⟩ :: blocks⟩
        ⟨nodes, ⟨opened, (before, body.reverse) :: finished, some guard, []⟩ :: blocks⟩
  | otherwise (span opened : Span) (finished : List (Condition × List Node))
      (before : Condition) (body nodes : List Node) (blocks : List OpenBlock) :
      Takes (.item .otherwise, span) ⟨nodes, ⟨opened, finished, some before, body⟩ :: blocks⟩
        ⟨nodes, ⟨opened, (before, body.reverse) :: finished, none, []⟩ :: blocks⟩
  | closeIf (span : Span) (b : OpenBlock) (nodes : List Node) (blocks : List OpenBlock) :
      Takes (.item .closeIf, span) ⟨nodes, b :: blocks⟩
        (Progress.modifyBody ⟨nodes, blocks⟩ (.conditional b.arms (b.opened.upTo span.stop) :: ·))

theorem takes_of_takePiece {p q : Progress} {piece : Piece × Span}
    (taken : p.takePiece piece = .ok q) : Takes piece p q := by
  obtain ⟨piece, span⟩ := piece
  obtain ⟨nodes, blocks⟩ := p
  cases piece with
  | text chars =>
    obtain rfl := Except.ok.inj taken
    exact .text chars span _
  | item asked =>
    cases asked with
    | output o =>
      obtain rfl := Except.ok.inj taken
      exact .output o span _
    | openIf guard =>
      obtain rfl := Except.ok.inj taken
      exact .openIf guard span nodes blocks
    | elseIf guard =>
      cases blocks with
      | nil => cases taken
      | cons b blocks =>
        obtain ⟨opened, finished, before, body⟩ := b
        cases before with
        | none => cases taken
        | some before =>
          obtain rfl := Except.ok.inj taken
          exact .elseIf guard span opened finished before body nodes blocks
    | otherwise =>
      cases blocks with
      | nil => cases taken
      | cons b blocks =>
        obtain ⟨opened, finished, before, body⟩ := b
        cases before with
        | none => cases taken
        | some before =>
          obtain rfl := Except.ok.inj taken
          exact .otherwise span opened finished before body nodes blocks
    | closeIf =>
      cases blocks with
      | nil => cases taken
      | cons b blocks =>
        obtain rfl := Except.ok.inj taken
        exact .closeIf span b nodes blocks

theorem takes_iff {p q : Progress} {piece : Piece × Span} :
    p.takePiece piece = .ok q ↔ Takes piece p q := by
  constructor
  · exact takes_of_takePiece
  · intro takes
    cases takes <;> rfl

theorem takes_blocks_length {p q : Progress} {piece : Piece × Span} (takes : Takes piece p q) :
    q.blocks.length ≤ p.blocks.length + 1 := by
  cases takes with
  | text | output =>
    rw [modifyBody_blocks_length]
    omega
  | openIf | elseIf | otherwise =>
    simp only [List.length_cons]
    omega
  | closeIf =>
    rw [modifyBody_blocks_length]
    simp only [List.length_cons]
    omega

theorem token_sound {limit : Nat} {p q : Progress} {t : Token × Span}
    (taken : p.token limit t = .ok q) :
    ∃ piece, IsPiece t piece ∧ p.takePiece piece = .ok q := by
  obtain ⟨t, span⟩ := t
  cases t with
  | text chars => exact ⟨_, .text chars span, taken⟩
  | brace => exact ⟨_, .brace span, taken⟩
  | expression inner =>
    simp only [Progress.token, expression_eq_takeIn, Progress.takeIn] at taken
    obtain ⟨_, _, taken⟩ := bind_eq_ok.1 taken
    obtain ⟨item, read, placed⟩ := bind_eq_ok.1 taken
    exact ⟨_, .expression span (item_sound read), placed⟩

theorem tokens_sound {limit : Nat} {p q : Progress} {ts : List (Token × Span)}
    (run : ts.foldlM (Progress.token limit) p = .ok q) :
    ∃ pieces, List.Forall₂ IsPiece ts pieces ∧
      pieces.foldlM Progress.takePiece p = .ok q := by
  induction ts generalizing p with
  | nil => exact ⟨[], .nil, run⟩
  | cons t ts ih =>
    rw [List.foldlM_cons] at run
    obtain ⟨next, taken, run⟩ := bind_eq_ok.1 run
    obtain ⟨piece, isPiece, placed⟩ := token_sound taken
    obtain ⟨pieces, arePieces, run⟩ := ih run
    refine ⟨piece :: pieces, .cons isPiece arePieces, ?_⟩
    rw [List.foldlM_cons, placed]
    exact run

def Piece.Keeps (limit depth : Nat) : Piece → Prop
  | .text _ => True
  | .item asked => (asked.directive = .openIf → depth < limit) ∧
      ∀ guard ∈ asked.guard?, guard.negations < limit

theorem directive_of_asks {inner : List Char} {lexed : Lexed} {item : Item}
    (asks : Asks inner lexed item) : Directive.of inner = item.directive := by
  cases asks <;> exact directive_iff.2 ‹_›

theorem token_eqWhen (limit : Nat) (p : Progress) {t : Token × Span} {piece : Piece × Span}
    (isPiece : IsPiece t piece) :
    EqWhen (piece.1.Keeps limit p.blocks.length) (p.token limit t) (p.takePiece piece) := by
  cases isPiece with
  | text chars span => exact eqWhen_refl trivial _
  | brace span => exact eqWhen_refl trivial _
  | @expression inner item span asks =>
    have checked : EqWhen (item.directive = .openIf → p.blocks.length < limit)
        (p.checkDepth limit inner span) (.ok ()) := by
      rw [Progress.checkDepth, directive_of_asks asks]
      split
      · rename_i deep
        constructor
        · intro kept
          exact absurd (kept deep.1) (Nat.not_lt.2 deep.2)
        · intro broken
          exact ⟨_, rfl, rfl⟩
      · rename_i shallow
        refine eqWhen_refl (fun opens => ?_) _
        exact Nat.lt_of_not_le fun deep => shallow ⟨opens, deep⟩
    have read := eqWhen_bind (item_eqWhen limit asks span) fun item => p.place item span
    simp only [Progress.token, expression_eq_takeIn, Progress.takeIn]
    exact eqWhen_trans (eqWhen_bind checked _) fun _ => read

/-! A limit of as many levels as there are characters is never reached. -/

theorem piece_keeps {limit depth : Nat} {t : Token × Span} {piece : Piece × Span}
    (isPiece : IsPiece t piece)
    (fits : ∀ inner, t.1 = .expression inner → inner.length ≤ limit) (shallow : depth < limit) :
    piece.1.Keeps limit depth := by
  cases isPiece with
  | text | brace => trivial
  | expression span asks =>
    refine ⟨fun _ => shallow, fun guard brings => ?_⟩
    exact Nat.lt_of_lt_of_le (guard_negations asks brings) (fits _ rfl)

theorem tokens_iff {limit : Nat} {p q : Progress} {ts : List (Token × Span)}
    (fits : ∀ t ∈ ts, ∀ inner, t.1 = .expression inner → inner.length ≤ limit)
    (shallow : p.blocks.length + ts.length ≤ limit) :
    ts.foldlM (Progress.token limit) p = .ok q ↔
      ∃ pieces, List.Forall₂ IsPiece ts pieces ∧
        pieces.foldlM Progress.takePiece p = .ok q := by
  constructor
  · exact tokens_sound
  · rintro ⟨pieces, arePieces, run⟩
    induction arePieces generalizing p with
    | nil => exact run
    | @cons t piece ts pieces isPiece _ ih =>
      -- Every token opens one conditional at most, so there is a level left for each to come.
      rw [List.length_cons] at shallow
      rw [List.foldlM_cons] at run
      obtain ⟨next, placed, run⟩ := bind_eq_ok.1 run
      have grown := takes_blocks_length (takes_iff.1 placed)
      have kept : piece.1.Keeps limit p.blocks.length :=
        piece_keeps isPiece (fits t List.mem_cons_self) (by omega)
      rw [List.foldlM_cons, (token_eqWhen limit p isPiece).same kept, placed]
      exact ih (fun u member => fits u (List.mem_cons_of_mem t member)) (by omega) run

end TitleTemplate
