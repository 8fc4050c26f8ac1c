import Mathlib.Data.List.Infix
import TitleTemplate.Proofs.Template.Blame
import TitleTemplate.Proofs.Template.Composition
import TitleTemplate.Proofs.Template.Excerpts
import TitleTemplate.Proofs.Template.Pieces
import TitleTemplate.Proofs.Text.Cut

/-!
Where reading a template fails. Only an expression can fail, and it is to blame for a part of
itself; what stands before it has been read and what comes after it is never looked at. The end of
a template fails when conditionals are open there, and as many ends of conditionals mend it.
-/
namespace TitleTemplate

/-- A span of a part of a text that stands at a place. -/
def Span.Within (s : Span) (place : Position) (text : List Char) : Prop :=
  ∃ before part after, text = before ++ (part ++ after) ∧
    s = ⟨place.after before, (place.after before).after part⟩

theorem within_whole (place : Position) (text : List Char) :
    Span.Within ⟨place, place.after text⟩ place text :=
  ⟨[], text, [], by simp, rfl⟩

theorem within_part {s : Span} {place : Position} (before : List Char) {part : List Char}
    (inside : s.Within (place.after before) part) (after : List Char) :
    s.Within place (before ++ (part ++ after)) := by
  obtain ⟨front, here, back, rfl, rfl⟩ := inside
  refine ⟨before ++ front, here, back ++ after, by simp, ?_⟩
  rw [Position.after_append]

theorem lexed_within (p : Position) (cs : List Char) :
    (∀ l ∈ (Lexed.scan p cs).lexemes, l.2.Within p cs) ∧
      ∀ e ∈ (Lexed.scan p cs).fault, e.2.Within p cs := by
  induction size : cs.length using Nat.strongRecOn generalizing p cs with
  | ind n ih =>
    cases first : cs.dropWhile isBlank with
    | nil => simp [scan_only_blanks p first]
    | cons c tail =>
      have shape : cs = cs.takeWhile isBlank ++
          ((scanLexeme c tail).taken ++ (scanLexeme c tail).rest) := by
        rw [scanLexeme_append, ← first, List.takeWhile_append_dropWhile]
      have here := (within_part _ (within_whole (p.after (cs.takeWhile isBlank))
        (scanLexeme c tail).taken) (scanLexeme c tail).rest)
      rw [← shape] at here
      rw [scan_lexeme p first]
      dsimp only
      cases (scanLexeme c tail).result with
      | error fault => simpa using here
      | ok lexeme =>
        have shorter : (scanLexeme c tail).rest.length < n := by
          have one := scanLexeme_length c tail
          have two := dropWhile_length isBlank cs
          rw [first] at two
          omega
        obtain ⟨lexemes, fault⟩ := ih _ shorter
          ((p.after (cs.takeWhile isBlank)).after (scanLexeme c tail).taken) _ rfl
        have later : ∀ s : Span,
            s.Within ((p.after (cs.takeWhile isBlank)).after (scanLexeme c tail).taken)
              (scanLexeme c tail).rest → s.Within p cs := by
          intro s inside
          rw [← Position.after_append] at inside
          have moved := within_part _ inside []
          rwa [List.append_nil, List.append_assoc, ← shape] at moved
        constructor
        · intro l member
          rcases List.mem_cons.1 member with rfl | after
          · exact here
          · exact later _ (lexemes l after)
        · exact fun e ends => later _ (fault e ends)

theorem item_reports {limit : Nat} {inner : List Char} {lexed : Lexed} {span : Span}
    {fault : Fault} (failed : Item.read limit inner lexed span = .error fault) :
    (lexed.reading limit span).Reports lexed.lexemes fault := by
  simp only [Item.read] at failed
  split at failed
  · obtain rfl := Except.error.inj failed
    exact .whole (by simp) (by simp)
  · cases kind : Directive.of inner <;> simp only [kind] at failed
    case output =>
      rcases bind_eq_error.1 failed with output | ⟨_, _, done⟩
      · exact Reading.output_reports output
      · cases done
    case openIf | elseIf =>
      rcases bind_eq_error.1 failed with guarded | ⟨_, _, done⟩
      · exact Reading.guarded_reports guarded
      · cases done
    case otherwise | closeIf => cases failed

theorem place_fault {p : Progress} {item : Item} {span : Span} {fault : Fault}
    (failed : p.place item span = .error fault) :
    fault.cause ≠ .unclosed ∧ (∀ f, fault.cause ≠ .lexical f) ∧ fault.span = span := by
  unfold Progress.place at failed
  split at failed
  case h_1 | h_2 | h_8 => cases failed
  case h_3 | h_5 | h_7 =>
    obtain rfl := Except.error.inj failed
    exact ⟨by simp, by simp, rfl⟩
  case h_4 | h_6 =>
    split at failed
    · obtain rfl := Except.error.inj failed
      exact ⟨by simp, by simp, rfl⟩
    · cases failed

theorem expression_fault {limit : Nat} {inner : List Char} {place : Position} {p : Progress}
    {fault : Fault} (failed : p.expression limit inner
      ⟨place, place.after (Token.expression inner).source⟩ = .error fault) :
    fault.cause ≠ .unclosed ∧ fault.span.Within place (Token.expression inner).source := by
  have whole := within_whole place (Token.expression inner).source
  rw [expression_eq_takeIn] at failed
  rcases bind_eq_error.1 failed with deep | ⟨_, _, failed⟩
  · unfold Progress.checkDepth at deep
    split at deep
    · obtain rfl := Except.error.inj deep
      exact ⟨by simp, whole⟩
    · cases deep
  rcases bind_eq_error.1 failed with unread | ⟨item, _, unplaced⟩
  · have inside : ∀ s : Span, s.Within (place.next '\x7b') inner →
        s.Within place (Token.expression inner).source :=
      fun s within => within_part ['\x7b'] within ['\x7d']
    obtain ⟨lexemes, lexical⟩ := lexed_within (place.next '\x7b') inner
    cases item_reports unread with
    | lexical ends =>
      obtain ⟨e, found, rfl⟩ := Option.map_eq_some_iff.1 ends
      exact ⟨by simp, inside _ (lexical e found)⟩
    | whole apart _ => exact ⟨apart, whole⟩
    | word member => exact ⟨by simp, inside _ (lexemes _ member)⟩
  · obtain ⟨apart, -, here⟩ := place_fault unplaced
    exact ⟨apart, here ▸ whole⟩

theorem exists_first_error {α β ε : Type} {f : β → α → Except ε β} {xs : List α} {b : β} {e : ε}
    (failed : xs.foldlM f b = .error e) :
    ∃ before x after c, xs = before ++ x :: after ∧ before.foldlM f b = .ok c ∧
      f c x = .error e := by
  induction xs generalizing b with
  | nil => cases failed
  | cons x xs ih =>
    rw [List.foldlM_cons] at failed
    rcases bind_eq_error.1 failed with here | ⟨d, taken, later⟩
    · exact ⟨[], x, xs, b, rfl, rfl, here⟩
    · obtain ⟨before, y, after, c, rfl, run, found⟩ := ih later
      refine ⟨x :: before, y, after, c, rfl, ?_, found⟩
      rw [List.foldlM_cons, taken]
      exact run

/-- The first fault is in an expression, and reading as far as its end is enough to find it. -/
theorem readFrom_fault {limit : Nat} {place : Position} {p : Progress} {cs : List Char}
    {fault : Fault} (failed : readFrom limit place p cs = .error fault) :
    ∃ front inner rest, cs = front ++ ((Token.expression inner).source ++ rest) ∧
      fault.cause ≠ .unclosed ∧
      fault.span.Within (place.after front) (Token.expression inner).source ∧
      Terminated (front ++ (Token.expression inner).source) ∧
      readFrom limit place p (front ++ (Token.expression inner).source) = .error fault := by
  obtain ⟨before, ⟨t, span⟩, after, q, located, run, found⟩ := exists_first_error failed
  obtain ⟨ts, us, scanned, rfl, here⟩ := Token.locate_eq_append located
  cases us with
  | nil => cases here
  | cons u us =>
    obtain ⟨same, _⟩ := List.cons.inj here
    obtain ⟨rfl, rfl⟩ := Prod.mk.inj same
    cases t with
    | text chars => cases found
    | brace => cases found
    | expression inner =>
      obtain ⟨apart, inside⟩ := expression_fault found
      rw [← List.singleton_append, ← List.append_assoc] at scanned
      obtain ⟨rest, shape, -, front⟩ := Token.scan_front scanned
      rw [List.flatMap_append, List.flatMap_singleton] at shape front
      refine ⟨ts.flatMap Token.source, inner, rest, ?_, apart, inside, ?_, ?_⟩
      · rw [shape, List.append_assoc]
      · intro more last
        rw [front, List.getLast?_concat] at last
        cases last
      · rw [readFrom, front, Token.locate_append, List.foldlM_append, run]
        simp only [Token.locate, List.foldlM_cons, bind, Except.bind, found]

/-! What is open at the end of a template, and what closes it. -/

/-- The conditionals that are open after a token, innermost first, by where they begin. -/
def stillOpen (opened : List Span) (t : Token × Span) : List Span :=
  match t.1 with
  | .expression inner =>
    match Directive.of inner with
    | .openIf => t.2 :: opened
    | .closeIf => opened.tail
    | _ => opened
  | _ => opened

/-- The expressions of a template that open conditionals and are not closed, innermost first. -/
def openIfs (template : String) : List Span := (Token.ofTemplate template).foldl stillOpen []

def Progress.opened (p : Progress) : List Span := p.blocks.map OpenBlock.opened

theorem modifyBody_opened (p : Progress) (f : List Node → List Node) :
    (p.modifyBody f).opened = p.opened := by
  obtain ⟨nodes, blocks⟩ := p
  cases blocks <;> rfl

theorem token_opened {limit : Nat} {p q : Progress} {t : Token × Span}
    (taken : p.token limit t = .ok q) : q.opened = stillOpen p.opened t := by
  obtain ⟨piece, isPiece, placed⟩ := token_sound taken
  cases isPiece with
  | text | brace =>
    obtain rfl := Except.ok.inj placed
    exact modifyBody_opened p _
  | expression span asks =>
    have directive := directive_of_asks asks
    cases takes_of_takePiece placed <;> simp only [stillOpen, directive, Item.directive]
    case output => exact modifyBody_opened p _
    case openIf | elseIf | otherwise => rfl
    case closeIf => exact modifyBody_opened _ _

theorem tokens_opened {limit : Nat} {p q : Progress} {ts : List (Token × Span)}
    (run : ts.foldlM (Progress.token limit) p = .ok q) :
    q.opened = ts.foldl stillOpen p.opened := by
  induction ts generalizing p with
  | nil =>
    obtain rfl := Except.ok.inj run
    rfl
  | cons t ts ih =>
    rw [List.foldlM_cons] at run
    obtain ⟨next, taken, run⟩ := bind_eq_ok.1 run
    rw [List.foldl_cons, ← token_opened taken]
    exact ih run

def closings (n : Nat) : List Char := (List.replicate n (braced "/if".toList)).flatten

theorem expression_close (limit : Nat) (span : Span) (p : Progress) :
    p.expression limit "/if".toList span = p.place .closeIf span := by
  have directive : Directive.of "/if".toList = .closeIf := by decide
  have some : ("/if".toList.all isBlank) = false := by decide
  rw [expression_eq_takeIn]
  simp only [Progress.takeIn, Progress.checkDepth, Item.read, directive, some, reduceCtorEq,
    false_and, Bool.false_eq_true, ↓reduceIte, bind, Except.bind]

theorem closings_succ (n : Nat) : closings (n + 1) = braced "/if".toList ++ closings n := by
  rw [closings, List.replicate_succ, List.flatten_cons]
  rfl

theorem closed_iff (limit : Nat) (place : Position) (p : Progress) (n : Nat) :
    (∃ ns, (readFrom limit place p (closings n) >>= Progress.finish) = .ok ns) ↔
      n = p.opened.length := by
  induction n generalizing place p with
  | zero =>
    obtain ⟨nodes, blocks⟩ := p
    rw [closings, List.replicate_zero, List.flatten_nil, readFrom_nil]
    cases blocks <;> simp [Progress.finish, Progress.opened, bind, Except.bind]
  | succ n ih =>
    have scanned : Token.scan (braced "/if".toList ++ closings n) =
        .expression "/if".toList :: Token.scan (closings n) :=
      scan_braced (enclosed_of_all (by decide)) (by decide) (closings n)
    rw [closings_succ, readFrom_token scanned]
    simp only [Progress.token, expression_close]
    obtain ⟨nodes, blocks⟩ := p
    cases blocks with
    | nil => simp [Progress.place, Progress.opened, bind, Except.bind]
    | cons b blocks =>
      refine (ih _ _).trans ?_
      rw [modifyBody_opened]
      simp [Progress.opened]

theorem openIfs_covered {template : String} {span : Span} (member : span ∈ openIfs template) :
    ∃ part, span.Covers template.toList part := by
  have kept : ∀ (ts : List (Token × Span)) (opened : List Span),
      span ∈ ts.foldl stillOpen opened → span ∈ opened ∨ span ∈ ts.map Prod.snd := by
    intro ts
    induction ts with
    | nil => exact fun opened found => .inl found
    | cons t ts ih =>
      intro opened found
      rcases ih _ found with before | later
      · unfold stillOpen at before
        split at before
        · split at before
          · rcases List.mem_cons.1 before with rfl | already
            · exact .inr List.mem_cons_self
            · exact .inl already
          · exact .inl (List.mem_of_mem_tail before)
          · exact .inl before
        · exact .inl before
      · exact .inr (List.mem_cons_of_mem _ later)
  rcases kept _ _ member with nowhere | found
  · cases nowhere
  · obtain ⟨⟨t, s⟩, there, rfl⟩ := List.mem_map.1 found
    exact ⟨_, token_covers there⟩

theorem covers_bounds {s : Span} {text : String} {part : List Char}
    (covers : s.Covers text.toList part) :
    s.start.offset ≤ s.stop.offset ∧ s.stop.offset ≤ text.utf8ByteSize := by
  obtain ⟨before, after, whole, rfl⟩ := covers
  have size := congrArg String.utf8Len whole
  rw [String.utf8Len_toList, String.utf8Len_append, String.utf8Len_append] at size
  simp only [offset_after, Position.first]
  omega

/-- A template fails at its first fault, whatever comes after it, or it lacks the ends of the
conditionals that are open at its end; and the fault lies in the template. -/
theorem parse_fails_at_first_fault {limit : Nat} {s : String} {fault : Fault}
    (failed : parse limit s = .error fault) :
    (fault.cause ≠ .unclosed → ∀ t, parse limit (s ++ t) = .error fault) ∧
      (fault.cause = .unclosed →
        (openIfs s).head? = some fault.span ∧
          (Terminated s.toList → ∀ n,
            (∃ ns, parse limit (s ++ String.ofList (closings n)) = .ok ns) ↔
              n = (openIfs s).length)) ∧
      fault.span.start.offset ≤ fault.span.stop.offset ∧
      fault.span.stop.offset ≤ s.utf8ByteSize := by
  rcases bind_eq_error.1 failed with unread | ⟨p, read, unfinished⟩
  · obtain ⟨front, inner, rest, shape, apart, inside, terminated, found⟩ := readFrom_fault unread
    refine ⟨fun _ t => ?_, fun same => absurd same apart, ?_⟩
    · have longer := readFrom_append limit .first .start terminated (rest ++ t.toList)
      rw [found, List.append_assoc, ← List.append_assoc _ rest, ← List.append_assoc, ← shape,
        ← String.toList_append] at longer
      exact bind_eq_error.2 (.inl longer)
    · have covered := within_part _ inside rest
      rw [← shape] at covered
      obtain ⟨before, part, after, covers⟩ := covered
      exact covers_bounds ⟨before, after, covers⟩
  · have opened : p.opened = openIfs s := tokens_opened read
    obtain ⟨nodes, blocks⟩ := p
    cases blocks with
    | nil => cases unfinished
    | cons b blocks =>
      obtain rfl := Except.error.inj unfinished
      have innermost : (openIfs s).head? = some b.opened := by
        rw [← opened]
        rfl
      obtain ⟨part, covers⟩ := openIfs_covered (List.mem_of_mem_head? innermost)
      refine ⟨fun other => absurd rfl other, fun _ => ⟨innermost, fun terminated n => ?_⟩,
        covers_bounds covers⟩
      have longer : parse limit (s ++ String.ofList (closings n)) =
          readFrom limit .first .start (s.toList ++ closings n) >>= Progress.finish := by
        rw [← String.toList_ofList (l := closings n), ← String.toList_append,
          String.toList_ofList]
        rfl
      have again : readFrom limit .first .start s.toList = .ok ⟨nodes, b :: blocks⟩ := read
      rw [longer, readFrom_append limit _ _ terminated, again, ← opened]
      exact closed_iff limit _ _ n

/-- One template with a fault in it, and one that ends within two conditionals. -/
theorem parse_fails_at_first_fault_open :
    let broken := "a \x7bb c\x7d"
    let unfinished := "\x7bif a\x7d\x7belse\x7d\x7bif b\x7d"
    (∃ fault, parse 8 broken = .error fault ∧ ∀ t, parse 8 (broken ++ t) = .error fault) ∧
      (∃ fault, parse 8 unfinished = .error fault ∧ fault.span.start = ⟨1, 12, 12⟩) ∧
      ∀ n, (∃ ns, parse 8 (unfinished ++ String.ofList (closings n)) = .ok ns) ↔ n = 2 := by
  intro broken unfinished
  have failed : ∀ s : String, ∀ fault, (match parse 8 s with
      | .error fault => some fault
      | .ok _ => none) = some fault → parse 8 s = .error fault := by
    intro s fault found
    split at found
    · rename_i same
      rw [same, Option.some.inj found]
    · cases found
  have first := failed broken
    ⟨.unexpected (some (.word "c")) .ending, ⟨⟨1, 2, 2⟩, ⟨1, 7, 7⟩⟩⟩ (by decide +kernel)
  have last := failed unfinished ⟨.unclosed, ⟨⟨1, 12, 12⟩, ⟨1, 18, 18⟩⟩⟩ (by decide +kernel)
  have terminated : Terminated unfinished.toList := by
    have last : (Token.scan unfinished.toList).getLast? = some (.expression "if b".toList) := by
      decide +kernel
    intro rest
    rw [last]
    simp
  have two : (openIfs unfinished).length = 2 := by decide +kernel
  have completed := ((parse_fails_at_first_fault last).2.1 rfl).2 terminated
  rw [two] at completed
  exact ⟨⟨_, first, (parse_fails_at_first_fault first).1 (by simp)⟩, ⟨_, last, rfl⟩, completed⟩

end TitleTemplate
