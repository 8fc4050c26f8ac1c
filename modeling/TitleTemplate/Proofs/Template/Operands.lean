import TitleTemplate.Proofs.Template.Relocation
import TitleTemplate.Proofs.Text.Division

/-!
The grammar of operands. Each phrase is a run of lexemes:

  operand := path ('|' name ['(' [literal (',' literal)*] ')'])*

where a path is one word, made of segments with points between them, a name is any word, and a
literal is a word or a text. The reader of a phrase takes a run that is such a phrase, and it takes
every such run whole when nothing follows that the phrase could go on with.
-/
namespace TitleTemplate

def lastStop (ls : List (Lexeme × Span)) : Position :=
  (ls.getLast?.map fun l => l.2.stop).getD default

theorem lastStop_append (ls : List (Lexeme × Span)) {ms : List (Lexeme × Span)} (some : ms ≠ []) :
    lastStop (ls ++ ms) = lastStop ms := by
  obtain ⟨ms, m, rfl⟩ := List.eq_nil_or_concat ms |>.resolve_left some
  simp [lastStop]

theorem lastStop_after (ls : List (Lexeme × Span)) (l : Lexeme × Span)
    {ms : List (Lexeme × Span)} (some : ms ≠ []) : lastStop (ls ++ l :: ms) = lastStop ms := by
  rw [← List.singleton_append, ← List.append_assoc]
  exact lastStop_append _ some

theorem lastStop_last (ls : List (Lexeme × Span)) (l : Lexeme) (span : Span) :
    lastStop (ls ++ [(l, span)]) = span.stop := by
  simp [lastStop]

structure IsPath (raw : String) (path : List String) : Prop where
  some : path ≠ []
  segments : ∀ segment ∈ path, isSegment segment.toList = true
  joined : raw.toList = ['.'].intercalate (path.map String.toList)

inductive IsLiteral : Lexeme → Value → Prop
  | word (word : String) : IsLiteral (.word word) (literalOfWord word)
  | text (text : String) (escaped : Bool) : IsLiteral (.text text escaped) (.str text)

inductive MoreLiterals : List (Lexeme × Span) → List Value → Prop
  | done : MoreLiterals [] []
  | more {l : Lexeme} {v : Value} {ls : List (Lexeme × Span)} {vs : List Value}
      (comma span : Span) (literal : IsLiteral l v) (later : MoreLiterals ls vs) :
      MoreLiterals ((.comma, comma) :: (l, span) :: ls) (v :: vs)

/-- What may stand between the parentheses after the name of a modifier. -/
inductive AreArguments : List (Lexeme × Span) → List Value → Prop
  | none : AreArguments [] []
  | some {l : Lexeme} {v : Value} {ls : List (Lexeme × Span)} {vs : List Value}
      (span : Span) (literal : IsLiteral l v) (later : MoreLiterals ls vs) :
      AreArguments ((l, span) :: ls) (v :: vs)

inductive IsCall : List (Lexeme × Span) → ModifierCall → Prop
  | bare (name : String) (span : Span) : IsCall [(.word name, span)] ⟨.ofString name, []⟩
  | applied {ls : List (Lexeme × Span)} {vs : List Value} (name : String)
      (span opened closed : Span) (arguments : AreArguments ls vs) :
      IsCall ((.word name, span) :: (.parenOpen, opened) :: (ls ++ [(.parenClose, closed)]))
        ⟨.ofString name, vs⟩

/-- Calls of modifiers, each after a bar. -/
inductive AreCalls : List (Lexeme × Span) → List ModifierCall → Prop
  | none : AreCalls [] []
  | more {ls ms : List (Lexeme × Span)} {call : ModifierCall} {calls : List ModifierCall}
      (bar : Span) (first : IsCall ls call) (later : AreCalls ms calls) :
      AreCalls ((.pipe, bar) :: (ls ++ ms)) (call :: calls)

inductive IsOperand : List (Lexeme × Span) → Operand → Prop
  | mk {raw : String} {path : List String} {ls : List (Lexeme × Span)} {calls : List ModifierCall}
      (span : Span) (named : IsPath raw path) (modified : AreCalls ls calls) :
      IsOperand ((.word raw, span) :: ls) ⟨path, calls⟩

def EndsOperand (ls : List (Lexeme × Span)) : Prop :=
  ∀ l ∈ ls.head?, l.1 ≠ .pipe ∧ l.1 ≠ .parenOpen

theorem endsOperand_nil : EndsOperand [] := by
  intro l member
  cases member

theorem call_ne_nil {ls : List (Lexeme × Span)} {call : ModifierCall} (called : IsCall ls call) :
    ls ≠ [] := by
  cases called <;> simp

theorem operand_ne_nil {ls : List (Lexeme × Span)} {o : Operand} (operand : IsOperand ls o) :
    ls ≠ [] := by
  cases operand
  simp

theorem point_not_segment {segment : List Char} (valid : isSegment segment = true) :
    '.' ∉ segment := by
  intro member
  unfold isSegment at valid
  rw [Bool.and_eq_true, List.all_eq_true] at valid
  have point : isSegmentChar '.' = false := by decide
  have inside := valid.2 '.' member
  rw [point] at inside
  cases inside

theorem isPath_iff {raw : String} {path : List String} :
    IsPath raw path ↔
      (splitAtChar '.' raw.toList).all isSegment = true ∧
        path = (splitAtChar '.' raw.toList).map String.ofList := by
  constructor
  · rintro ⟨some, segments, joined⟩
    have parts : splitAtChar '.' raw.toList = path.map String.toList := by
      rw [joined]
      refine splitAtChar_intercalate (by simpa using some) ?_
      intro part member
      obtain ⟨segment, found, rfl⟩ := List.mem_map.1 member
      exact point_not_segment (segments segment found)
    rw [parts]
    constructor
    · simpa using segments
    · simp [Function.comp_def]
  · rintro ⟨valid, rfl⟩
    constructor
    · simpa using splitAtChar_ne_nil '.' raw.toList
    · intro segment member
      obtain ⟨part, found, rfl⟩ := List.mem_map.1 member
      rw [String.toList_ofList]
      exact List.all_eq_true.1 valid part found
    · simp [Function.comp_def, intercalate_splitAtChar]

namespace Reading
variable {r : Reading}

theorem literal_iff {expected : Expected} {l : Lexeme} {v : Value} :
    r.literal expected l = .ok v ↔ IsLiteral l v := by
  constructor
  · intro read
    cases l with
    | word word =>
      obtain rfl := Except.ok.inj read
      exact .word word
    | text text escaped =>
      obtain rfl := Except.ok.inj read
      exact .text text escaped
    | _ => cases read
  · intro literal
    cases literal <;> rfl

theorem path_sound {ls : List (Lexeme × Span)} {read : Read (List String)}
    (found : r.path ls = .ok read) :
    ∃ raw span, ls = (.word raw, span) :: read.rest ∧ IsPath raw read.value ∧
      read.stop = span.stop := by
  unfold path at found
  split at found
  · cases found
  · rename_i raw span rest
    dsimp only at found
    split at found
    · rename_i valid
      obtain rfl := Except.ok.inj found
      exact ⟨raw, span, rfl, isPath_iff.2 ⟨valid, rfl⟩, rfl⟩
    · cases found
  · cases found

theorem path_complete {raw : String} {path : List String} (named : IsPath raw path) (span : Span)
    (rest : List (Lexeme × Span)) :
    r.path ((.word raw, span) :: rest) = .ok ⟨path, span.stop, rest⟩ := by
  obtain ⟨valid, rfl⟩ := isPath_iff.1 named
  simp only [Reading.path, valid, ↓reduceIte]

theorem more_literals_sound {first : Bool} {ls : List (Lexeme × Span)} {read : Read (List Value)}
    (found : r.arguments first ls = .ok read) (later : first = false) :
    ∃ taken closed, ls = taken ++ (.parenClose, closed) :: read.rest ∧
      MoreLiterals taken read.value ∧ read.stop = closed.stop := by
  fun_induction arguments r first ls generalizing read with
  | case1 => cases found
  | case2 first closed rest =>
    obtain rfl := Except.ok.inj found
    exact ⟨[], closed, rfl, .done, rfl⟩
  | case3 => cases later
  | case4 => cases found
  | case5 comma l span rest ih =>
    obtain ⟨v, literal, found⟩ := bind_eq_ok.1 found
    obtain ⟨others, more, found⟩ := bind_eq_ok.1 found
    obtain rfl := Except.ok.inj found
    obtain ⟨taken, closed, shape, literals, stop⟩ := ih more rfl
    refine ⟨(.comma, comma) :: (l, span) :: taken, closed, ?_, ?_, stop⟩
    · rw [shape]
      rfl
    · exact .more comma span (literal_iff.1 literal) literals
  | case6 => cases found

theorem arguments_sound {ls : List (Lexeme × Span)} {read : Read (List Value)}
    (found : r.arguments true ls = .ok read) :
    ∃ taken closed, ls = taken ++ (.parenClose, closed) :: read.rest ∧
      AreArguments taken read.value ∧ read.stop = closed.stop := by
  unfold arguments at found
  split at found
  · cases found
  · rename_i closed rest
    obtain rfl := Except.ok.inj found
    exact ⟨[], closed, rfl, .none, rfl⟩
  · rename_i l span rest _ _
    obtain ⟨v, literal, found⟩ := bind_eq_ok.1 found
    obtain ⟨others, more, found⟩ := bind_eq_ok.1 found
    obtain rfl := Except.ok.inj found
    obtain ⟨taken, closed, shape, literals, stop⟩ := more_literals_sound more rfl
    refine ⟨(l, span) :: taken, closed, ?_, ?_, stop⟩
    · rw [shape]
      rfl
    · exact .some span (literal_iff.1 literal) literals
  all_goals contradiction

theorem more_literals_complete {ls : List (Lexeme × Span)} {vs : List Value}
    (literals : MoreLiterals ls vs) (closed : Span) (rest : List (Lexeme × Span)) :
    r.arguments false (ls ++ (.parenClose, closed) :: rest) = .ok ⟨vs, closed.stop, rest⟩ := by
  induction literals with
  | done => rfl
  | more comma span literal later ih =>
    simp only [List.cons_append, arguments, literal_iff.2 literal, ih, bind, Except.bind]
    rfl

theorem arguments_complete {ls : List (Lexeme × Span)} {vs : List Value}
    (arguments : AreArguments ls vs) (closed : Span) (rest : List (Lexeme × Span)) :
    r.arguments true (ls ++ (.parenClose, closed) :: rest) = .ok ⟨vs, closed.stop, rest⟩ := by
  cases arguments with
  | none => rfl
  | some span literal later =>
    rw [List.cons_append, Reading.arguments, literal_iff.2 literal]
    · simp only [more_literals_complete later, bind, Except.bind]
      rfl
    · intro same
      subst same
      cases literal

theorem modifier_sound {ls : List (Lexeme × Span)} {read : Read ModifierCall}
    (found : r.modifier ls = .ok read) :
    ∃ taken, ls = taken ++ read.rest ∧ IsCall taken read.value ∧ read.stop = lastStop taken := by
  unfold modifier at found
  split at found
  · cases found
  · rename_i name span opened rest
    obtain ⟨args, applied, found⟩ := bind_eq_ok.1 found
    obtain rfl := Except.ok.inj found
    obtain ⟨taken, closed, shape, arguments, stop⟩ := arguments_sound applied
    refine ⟨_, ?_, .applied name span opened closed arguments, ?_⟩
    · simp [shape]
    · rw [← List.cons_append, ← List.cons_append, lastStop_last]
      exact stop
  · rename_i name span rest _
    obtain rfl := Except.ok.inj found
    exact ⟨[(.word name, span)], rfl, .bare name span, rfl⟩
  · cases found

theorem modifier_complete {ls : List (Lexeme × Span)} {call : ModifierCall}
    (called : IsCall ls call) {rest : List (Lexeme × Span)}
    (ends : ∀ l ∈ rest.head?, l.1 ≠ .parenOpen) :
    r.modifier (ls ++ rest) = .ok ⟨call, lastStop ls, rest⟩ := by
  cases called with
  | bare name span =>
    rw [List.singleton_append, modifier]
    · rfl
    · rintro opened more rfl
      exact ends _ rfl rfl
  | @applied ls vs name span opened closed arguments =>
    have shape : (.word name, span) :: (.parenOpen, opened) :: (ls ++ [(.parenClose, closed)]) ++
        rest = (.word name, span) :: (.parenOpen, opened) ::
          (ls ++ (.parenClose, closed) :: rest) := by simp
    rw [shape, modifier, arguments_complete arguments, ← List.cons_append, ← List.cons_append,
      lastStop_last]
    rfl

theorem modifiers_next (stop : Position) (bar : Span) (rest : List (Lexeme × Span)) :
    r.modifiers stop ((.pipe, bar) :: rest) = r.modifier rest >>= fun call =>
      r.modifiers call.stop call.rest >>= fun others =>
        pure ⟨call.value :: others.value, others.stop, others.rest⟩ := by
  rw [modifiers]
  split <;> rename_i called <;> rw [called] <;> rfl

theorem modifiers_sound {stop : Position} {ls before : List (Lexeme × Span)}
    {read : Read (List ModifierCall)} (found : r.modifiers stop ls = .ok read)
    (here : stop = lastStop before) :
    ∃ taken, ls = taken ++ read.rest ∧ AreCalls taken read.value ∧
      read.stop = lastStop (before ++ taken) := by
  fun_induction modifiers r stop ls generalizing before read with
  | case1 => cases found
  | case2 stop bar rest call called ih =>
    obtain ⟨others, more, found⟩ := bind_eq_ok.1 found
    obtain rfl := Except.ok.inj found
    obtain ⟨taken, shape, first, ends⟩ := modifier_sound called
    obtain ⟨later, rest_shape, calls, last⟩ := ih more ends
    refine ⟨(.pipe, bar) :: (taken ++ later), ?_, .more bar first calls, ?_⟩
    · rw [shape, rest_shape]
      simp
    · have some := call_ne_nil first
      have more : taken ++ later ≠ [] := by simp [some]
      have lastTaken := lastStop_after before (.pipe, bar) more
      exact last.trans lastTaken.symm
  | case3 =>
    obtain rfl := Except.ok.inj found
    exact ⟨[], rfl, .none, by rw [List.append_nil, here]⟩

theorem modifiers_complete {ls : List (Lexeme × Span)} {calls : List ModifierCall}
    (called : AreCalls ls calls) {rest : List (Lexeme × Span)} (ends : EndsOperand rest)
    (before : List (Lexeme × Span)) :
    r.modifiers (lastStop before) (ls ++ rest) = .ok ⟨calls, lastStop (before ++ ls), rest⟩ := by
  induction called generalizing before with
  | none =>
    rw [List.nil_append, List.append_nil, modifiers]
    rintro bar more rfl
    exact (ends _ rfl).1 rfl
  | @more ls ms call calls bar first later ih =>
    have closed : ∀ l ∈ (ms ++ rest).head?, l.1 ≠ .parenOpen := by
      intro l member
      cases later with
      | none => exact (ends l member).2
      | more bar first later =>
        obtain rfl := Option.some.inj member
        simp
    have some := call_ne_nil first
    have more : ls ++ ms ≠ [] := by simp [some]
    have lastTaken := lastStop_after before (.pipe, bar) more
    rw [List.cons_append, List.append_assoc, modifiers_next, modifier_complete first closed]
    simp only [bind, Except.bind, ih, lastTaken]
    rfl

theorem operand_sound {ls : List (Lexeme × Span)} {read : Read Operand}
    (found : r.operand ls = .ok read) :
    ∃ taken, ls = taken ++ read.rest ∧ IsOperand taken read.value ∧
      read.stop = lastStop taken := by
  obtain ⟨path, named, found⟩ := bind_eq_ok.1 found
  obtain ⟨calls, called, found⟩ := bind_eq_ok.1 found
  obtain rfl := Except.ok.inj found
  obtain ⟨raw, span, shape, isPath, stop⟩ := path_sound named
  have here : path.stop = lastStop [(.word raw, span)] := stop
  obtain ⟨taken, rest_shape, areCalls, last⟩ := modifiers_sound called here
  refine ⟨(.word raw, span) :: taken, ?_, .mk span isPath areCalls, last⟩
  rw [shape, rest_shape]
  rfl

theorem operand_complete {ls : List (Lexeme × Span)} {o : Operand} (operand : IsOperand ls o)
    {rest : List (Lexeme × Span)} (ends : EndsOperand rest) :
    r.operand (ls ++ rest) = .ok ⟨o, lastStop ls, rest⟩ := by
  obtain ⟨span, named, called⟩ := operand
  rename_i raw path ls calls
  have later := modifiers_complete (r := r) called ends [(.word raw, span)]
  have stop : lastStop [(Lexeme.word raw, span)] = span.stop := rfl
  rw [stop] at later
  rw [List.cons_append, Reading.operand, path_complete named]
  simp only [bind, Except.bind, later]
  rfl

theorem output_iff {ls : List (Lexeme × Span)} {o : Operand} :
    r.output ls = .ok o ↔ r.fault = none ∧ IsOperand ls o := by
  constructor
  · intro found
    obtain ⟨read, operand, found⟩ := bind_eq_ok.1 found
    obtain ⟨taken, shape, isOperand, _⟩ := operand_sound operand
    unfold complete at found
    split at found
    · cases found
    · cases found
    · rename_i rest fault
      obtain rfl := Except.ok.inj found
      rw [rest, List.append_nil] at shape
      exact ⟨fault, shape ▸ isOperand⟩
  · rintro ⟨clean, operand⟩
    have read := operand_complete (r := r) operand endsOperand_nil
    rw [List.append_nil] at read
    simp only [output, read, bind, Except.bind, complete, clean]

end Reading
end TitleTemplate
