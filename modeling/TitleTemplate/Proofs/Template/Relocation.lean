import TitleTemplate.Template.Blocks

/-!
Positions are carried along and never looked at: what the readers of lexemes and of blocks do with a
template is the same wherever the template stands. This is said by one operation, `relocate`, that
changes every position in a tree, a fault or a state by a function, and by one theorem for each
reader: reading what has been relocated is relocating what has been read.
-/
namespace TitleTemplate

def Span.relocate (f : Position → Position) (s : Span) : Span := ⟨f s.start, f s.stop⟩

def Fault.relocate (f : Position → Position) (e : Fault) : Fault := ⟨e.cause, e.span.relocate f⟩

def relocateLexemes (f : Position → Position) (ls : List (Lexeme × Span)) :
    List (Lexeme × Span) :=
  ls.map fun l => (l.1, l.2.relocate f)

def Lexed.relocate (f : Position → Position) (l : Lexed) : Lexed :=
  ⟨relocateLexemes f l.lexemes, l.fault.map fun e => (e.1, e.2.relocate f), f l.stop⟩

def Condition.relocate (f : Position → Position) : Condition → Condition
  | .truthy operand span => .truthy operand (span.relocate f)
  | .not inner span => .not (inner.relocate f) (span.relocate f)
  | .compare left op right span => .compare left op right (span.relocate f)
  | .and left right span => .and (left.relocate f) (right.relocate f) (span.relocate f)
  | .or left right span => .or (left.relocate f) (right.relocate f) (span.relocate f)

mutual

def Node.relocate (f : Position → Position) : Node → Node
  | .literal text span => .literal text (span.relocate f)
  | .output operand span => .output operand (span.relocate f)
  | .conditional arms span => .conditional (arms.relocate f) (span.relocate f)

def Arms.relocate (f : Position → Position) : Arms → Arms
  | .guarded guard body rest =>
    .guarded (guard.relocate f) (relocateNodes f body) (rest.relocate f)
  | .otherwise body => .otherwise (relocateNodes f body)
  | .done => .done

def relocateNodes (f : Position → Position) : List Node → List Node
  | [] => []
  | n :: ns => n.relocate f :: relocateNodes f ns

end

theorem relocateNodes_eq_map (f : Position → Position) (ns : List Node) :
    relocateNodes f ns = ns.map (Node.relocate f) := by
  induction ns with
  | nil => rfl
  | cons n ns ih => rw [relocateNodes, ih, List.map_cons]

def Reading.relocate (f : Position → Position) (r : Reading) : Reading :=
  ⟨r.whole.relocate f, r.fault.map (Fault.relocate f), r.limit⟩

def Read.relocate {α β : Type} (f : Position → Position) (g : α → β) (r : Read α) : Read β :=
  ⟨g r.value, f r.stop, relocateLexemes f r.rest⟩

/-- Changes the positions of a fault, and a value by a function of its own. -/
def relocated {α β : Type} (f : Position → Position) (g : α → β) :
    Except Fault α → Except Fault β
  | .ok a => .ok (g a)
  | .error e => .error (e.relocate f)

@[simp] theorem relocated_ok {α β : Type} (f : Position → Position) (g : α → β) (a : α) :
    relocated f g (.ok a) = .ok (g a) := rfl

@[simp] theorem relocated_pure {α β : Type} (f : Position → Position) (g : α → β) (a : α) :
    relocated f g (pure a) = .ok (g a) := rfl

@[simp] theorem relocated_error {α β : Type} (f : Position → Position) (g : α → β) (e : Fault) :
    relocated f g (.error e) = .error (e.relocate f) := rfl

theorem relocated_bind {α β α' β' : Type} {f : Position → Position} {g : α → α'} {g' : β → β'}
    {x : Except Fault α} {x' : Except Fault α'} {k : α → Except Fault β}
    {k' : α' → Except Fault β'} (first : relocated f g x = x')
    (next : ∀ a, x = .ok a → relocated f g' (k a) = k' (g a)) :
    relocated f g' (x >>= k) = x' >>= k' := by
  subst first
  cases x with
  | ok a => exact next a rfl
  | error e => rfl

namespace Reading
variable (f : Position → Position) (r : Reading)

theorem literal_relocate (expected : Expected) (l : Lexeme) :
    relocated f id (r.literal expected l) = (r.relocate f).literal expected l := by
  cases l <;> rfl

theorem atEnd_relocate (expected : Expected) :
    (r.atEnd expected).relocate f = (r.relocate f).atEnd expected := by
  cases h : r.fault <;> simp [atEnd, relocate, h, Fault.relocate]

theorem path_relocate (ls : List (Lexeme × Span)) :
    relocated f (Read.relocate f id) (r.path ls) = (r.relocate f).path (relocateLexemes f ls) := by
  rcases ls with _ | ⟨⟨l, span⟩, rest⟩
  · exact congrArg Except.error (atEnd_relocate f r .path)
  · cases l with
    | word raw =>
      simp only [path, relocateLexemes, List.map_cons]
      split <;> rfl
    | _ => rfl

theorem arguments_relocate (first : Bool) (ls : List (Lexeme × Span)) :
    relocated f (Read.relocate f id) (r.arguments first ls) =
      (r.relocate f).arguments first (relocateLexemes f ls) := by
  fun_induction arguments r first ls with
  | case1 first => simp [relocateLexemes, arguments, atEnd_relocate]
  | case2 => cases ‹Bool› <;> rfl
  | case3 found span rest notClose ih =>
    have unfolded : (r.relocate f).arguments true (relocateLexemes f ((found, span) :: rest)) =
        ((r.relocate f).literal .argument found >>= fun value =>
          (r.relocate f).arguments false (relocateLexemes f rest) >>= fun others =>
            pure ⟨value :: others.value, others.stop, others.rest⟩) := by
      simp only [relocateLexemes, List.map_cons]
      rw [arguments]
      intro same
      exact notClose same
    rw [unfolded]
    refine relocated_bind (literal_relocate f r .argument found) fun value _ => ?_
    exact relocated_bind ih fun others _ => rfl
  | case4 => simp [relocateLexemes, arguments, atEnd_relocate]
  | case5 commaSpan found span rest ih =>
    refine relocated_bind (literal_relocate f r .argument found) fun value _ => ?_
    exact relocated_bind ih fun others _ => rfl
  | case6 found span rest notClose ending notComma =>
    cases found with
    | parenClose => exact absurd rfl notClose
    | comma =>
      cases rest with
      | nil => exact absurd rfl (ending rfl)
      | cons l rest => exact absurd rfl (notComma l.1 l.2 rest rfl)
    | _ => rfl

theorem modifier_relocate (ls : List (Lexeme × Span)) :
    relocated f (Read.relocate f id) (r.modifier ls) =
      (r.relocate f).modifier (relocateLexemes f ls) := by
  rcases ls with _ | ⟨⟨l, span⟩, rest⟩
  · exact congrArg Except.error (atEnd_relocate f r .modifierName)
  · cases l with
    | word name =>
      rcases rest with _ | ⟨⟨l, inner⟩, rest⟩
      · rfl
      · cases l with
        | parenOpen =>
          exact relocated_bind (arguments_relocate f r true rest) fun args _ => rfl
        | _ => rfl
    | _ => rfl

theorem modifiers_relocate (stop : Position) (ls : List (Lexeme × Span)) :
    relocated f (Read.relocate f id) (r.modifiers stop ls) =
      (r.relocate f).modifiers (f stop) (relocateLexemes f ls) := by
  fun_induction modifiers r stop ls with
  | case1 stop span rest fault read =>
    have same := modifier_relocate f r rest
    rw [read] at same
    simp only [relocateLexemes, List.map_cons]
    rw [modifiers, ← relocateLexemes, ← same]
    rfl
  | case2 stop span rest call read ih =>
    have same := modifier_relocate f r rest
    rw [read] at same
    simp only [relocateLexemes, List.map_cons]
    rw [modifiers, ← relocateLexemes, ← same]
    exact relocated_bind ih fun others _ => rfl
  | case3 stop ls noPipe =>
    rw [modifiers]
    · rfl
    · intro span rest same
      rcases ls with _ | ⟨⟨l, s⟩, ls⟩
      · simp [relocateLexemes] at same
      · simp only [relocateLexemes, List.map_cons, List.cons.injEq, Prod.mk.injEq] at same
        exact noPipe s ls (by rw [same.1.1])

theorem operand_relocate (ls : List (Lexeme × Span)) :
    relocated f (Read.relocate f id) (r.operand ls) =
      (r.relocate f).operand (relocateLexemes f ls) := by
  refine relocated_bind (path_relocate f r ls) fun path _ => ?_
  exact relocated_bind (modifiers_relocate f r path.stop path.rest) fun calls _ => rfl

theorem start_relocate {ls : List (Lexeme × Span)} (some : ls ≠ []) :
    f (start ls) = start (relocateLexemes f ls) := by
  cases ls with
  | nil => exact absurd rfl some
  | cons l ls => rfl

theorem atom_relocate (ls : List (Lexeme × Span)) :
    relocated f (Read.relocate f (Condition.relocate f)) (r.atom ls) =
      (r.relocate f).atom (relocateLexemes f ls) := by
  refine relocated_bind (operand_relocate f r ls) fun left read => ?_
  have some : ls ≠ [] := by
    intro none
    have := operand_rest read
    simp [none] at this
  obtain ⟨operand, stop, rest⟩ := left
  rcases rest with _ | ⟨⟨l, span⟩, rest⟩
  · simp only [Read.relocate, relocateLexemes, List.map_nil, relocated_pure, id_eq]
    rw [← relocateLexemes, ← start_relocate f some]
    rfl
  · cases l with
    | compare op =>
      rcases rest with _ | ⟨⟨l, inner⟩, rest⟩
      · exact congrArg Except.error (atEnd_relocate f r .comparedLiteral)
      · refine relocated_bind (literal_relocate f r .comparedLiteral l) fun right _ => ?_
        simp only [relocated_pure, Read.relocate, Condition.relocate, Span.relocate, id_eq]
        rw [start_relocate f some]
        rfl
    | _ =>
      simp only [relocated_pure, Read.relocate, Condition.relocate, Span.relocate,
        relocateLexemes, List.map_cons, id_eq]
      rw [start_relocate f some]
      rfl

theorem unary_relocate (depth : Nat) (ls : List (Lexeme × Span)) :
    relocated f (Read.relocate f (Condition.relocate f)) (r.unary depth ls) =
      (r.relocate f).unary depth (relocateLexemes f ls) := by
  fun_induction unary r depth ls with
  | case1 depth span rest deep =>
    have deep' : (r.relocate f).limit < depth + 1 := deep
    simp only [relocateLexemes, List.map_cons, unary, ↓reduceIte, if_pos deep']
    rfl
  | case2 depth span rest shallow ih =>
    have shallow' : ¬ (r.relocate f).limit < depth + 1 := shallow
    simp only [relocateLexemes, List.map_cons]
    rw [unary, if_pos rfl, if_neg shallow']
    exact relocated_bind ih fun inner _ => rfl
  | case3 depth word span rest plain =>
    simp only [relocateLexemes, List.map_cons]
    rw [unary, if_neg plain]
    exact atom_relocate f r _
  | case4 depth ls noWord =>
    rw [unary]
    · exact atom_relocate f r ls
    · intro word span rest same
      rcases ls with _ | ⟨⟨l, s⟩, ls⟩
      · simp [relocateLexemes] at same
      · simp only [relocateLexemes, List.map_cons, List.cons.injEq, Prod.mk.injEq] at same
        exact noWord word s ls (by rw [same.1.1])

theorem andChain_next (start : Position) {left : Read Condition} {span : Span}
    {rest : List (Lexeme × Span)} (here : left.rest = (.word "and", span) :: rest) :
    r.andChain start left = r.unary 1 rest >>= fun right =>
      r.andChain start
        ⟨.and left.value right.value ⟨start, right.stop⟩, right.stop, right.rest⟩ := by
  obtain ⟨value, stop, rest'⟩ := left
  subst here
  rw [andChain]
  simp only [↓reduceIte]
  split
  · rename_i fault read
    rw [read]
    rfl
  · rename_i right read
    rw [read]
    rfl

theorem andChain_done (start : Position) {left : Read Condition}
    (none : ∀ span rest, left.rest ≠ (.word "and", span) :: rest) :
    r.andChain start left = .ok left := by
  obtain ⟨value, stop, rest'⟩ := left
  rw [andChain]
  split
  · rename_i word span rest here
    rw [if_neg]
    intro same
    exact none span rest (by rw [here, same])
  · rfl

theorem orChain_next (start : Position) {left : Read Condition} {span : Span}
    {rest : List (Lexeme × Span)} (here : left.rest = (.word "or", span) :: rest) :
    r.orChain start left = r.conjunction rest >>= fun right =>
      r.orChain start ⟨.or left.value right.value ⟨start, right.stop⟩, right.stop, right.rest⟩ := by
  obtain ⟨value, stop, rest'⟩ := left
  subst here
  rw [orChain]
  simp only [↓reduceIte]
  split
  · rename_i fault read
    rw [read]
    rfl
  · rename_i right read
    rw [read]
    rfl

theorem orChain_done (start : Position) {left : Read Condition}
    (none : ∀ span rest, left.rest ≠ (.word "or", span) :: rest) :
    r.orChain start left = .ok left := by
  obtain ⟨value, stop, rest'⟩ := left
  rw [orChain]
  split
  · rename_i word span rest here
    rw [if_neg]
    intro same
    exact none span rest (by rw [here, same])
  · rfl

theorem relocateLexemes_word {word : String} {ls : List (Lexeme × Span)}
    (none : ∀ span rest, ls ≠ (.word word, span) :: rest) (span : Span)
    (rest : List (Lexeme × Span)) : relocateLexemes f ls ≠ (.word word, span) :: rest := by
  intro same
  rcases ls with _ | ⟨⟨l, s⟩, ls⟩
  · simp [relocateLexemes] at same
  · simp only [relocateLexemes, List.map_cons, List.cons.injEq, Prod.mk.injEq] at same
    exact none s ls (by rw [same.1.1])

theorem andChain_relocate (start : Position) (left : Read Condition) :
    relocated f (Read.relocate f (Condition.relocate f)) (r.andChain start left) =
      (r.relocate f).andChain (f start) (left.relocate f (Condition.relocate f)) := by
  induction size : left.rest.length using Nat.strongRecOn generalizing left with
  | ind n ih =>
    by_cases more : ∃ span rest, left.rest = (.word "and", span) :: rest
    · obtain ⟨span, rest, here⟩ := more
      have there : (left.relocate f (Condition.relocate f)).rest =
          (.word "and", span.relocate f) :: relocateLexemes f rest := by
        simp only [Read.relocate, here]
        rfl
      rw [andChain_next r start here, andChain_next _ _ there]
      refine relocated_bind (unary_relocate f r 1 rest) fun right read => ?_
      have shorter := unary_rest read
      refine ih right.rest.length ?_ _ rfl
      rw [← size, here, List.length_cons]
      omega
    · have none : ∀ span rest, left.rest ≠ (.word "and", span) :: rest := by
        intro span rest here
        exact more ⟨span, rest, here⟩
      rw [andChain_done r start none, andChain_done _ _ (relocateLexemes_word f none)]
      rfl

theorem conjunction_relocate (ls : List (Lexeme × Span)) :
    relocated f (Read.relocate f (Condition.relocate f)) (r.conjunction ls) =
      (r.relocate f).conjunction (relocateLexemes f ls) := by
  refine relocated_bind (unary_relocate f r 1 ls) fun left read => ?_
  have some : ls ≠ [] := by
    intro none
    have := unary_rest read
    simp [none] at this
  rw [andChain_relocate, start_relocate f some]

theorem orChain_relocate (start : Position) (left : Read Condition) :
    relocated f (Read.relocate f (Condition.relocate f)) (r.orChain start left) =
      (r.relocate f).orChain (f start) (left.relocate f (Condition.relocate f)) := by
  induction size : left.rest.length using Nat.strongRecOn generalizing left with
  | ind n ih =>
    by_cases more : ∃ span rest, left.rest = (.word "or", span) :: rest
    · obtain ⟨span, rest, here⟩ := more
      have there : (left.relocate f (Condition.relocate f)).rest =
          (.word "or", span.relocate f) :: relocateLexemes f rest := by
        simp only [Read.relocate, here]
        rfl
      rw [orChain_next r start here, orChain_next _ _ there]
      refine relocated_bind (conjunction_relocate f r rest) fun right read => ?_
      have shorter := conjunction_rest read
      refine ih right.rest.length ?_ _ rfl
      rw [← size, here, List.length_cons]
      omega
    · have none : ∀ span rest, left.rest ≠ (.word "or", span) :: rest := by
        intro span rest here
        exact more ⟨span, rest, here⟩
      rw [orChain_done r start none, orChain_done _ _ (relocateLexemes_word f none)]
      rfl

theorem disjunction_relocate (ls : List (Lexeme × Span)) :
    relocated f (Read.relocate f (Condition.relocate f)) (r.disjunction ls) =
      (r.relocate f).disjunction (relocateLexemes f ls) := by
  refine relocated_bind (conjunction_relocate f r ls) fun left read => ?_
  have some : ls ≠ [] := by
    intro none
    have := conjunction_rest read
    simp [none] at this
  rw [orChain_relocate, start_relocate f some]

theorem complete_relocate {α β : Type} (g : α → β) (read : Read α) :
    relocated f g (r.complete read) = (r.relocate f).complete (read.relocate f g) := by
  obtain ⟨value, stop, rest⟩ := read
  obtain ⟨whole, fault, limit⟩ := r
  cases rest <;> cases fault <;> rfl

theorem condition_relocate (ls : List (Lexeme × Span)) :
    relocated f (Condition.relocate f) (r.condition ls) =
      (r.relocate f).condition (relocateLexemes f ls) := by
  have sameLimit : (r.relocate f).limit = r.limit := rfl
  simp only [condition, sameLimit]
  split
  · rfl
  · exact relocated_bind (disjunction_relocate f r ls) fun read _ =>
      complete_relocate f r (Condition.relocate f) read

theorem output_relocate (ls : List (Lexeme × Span)) :
    relocated f id (r.output ls) = (r.relocate f).output (relocateLexemes f ls) :=
  relocated_bind (operand_relocate f r ls) fun read _ => complete_relocate f r id read

theorem guarded_relocate (keyword : String) (ls : List (Lexeme × Span)) :
    relocated f (Condition.relocate f) (r.guarded keyword ls) =
      (r.relocate f).guarded keyword (relocateLexemes f ls) := by
  have tail : (relocateLexemes f ls).drop 1 = relocateLexemes f (ls.drop 1) :=
    List.map_drop.symm
  simp only [guarded, tail]
  cases ls.drop 1 with
  | nil =>
    obtain ⟨whole, fault, limit⟩ := r
    cases fault <;> rfl
  | cons l rest => exact condition_relocate f r (l :: rest)

end Reading

/-- Two places whose positions are told apart neither here nor anywhere after them. -/
def Aligned (f g : Position → Position) (p q : Position) : Prop :=
  ∀ cs, f (p.after cs) = g (q.after cs)

theorem Position.after_append (p : Position) (cs ds : List Char) :
    p.after (cs ++ ds) = (p.after cs).after ds :=
  List.foldl_append

theorem aligned_after {f g : Position → Position} {p q : Position} (aligned : Aligned f g p q)
    (cs : List Char) : Aligned f g (p.after cs) (q.after cs) := by
  intro more
  have joined := aligned (cs ++ more)
  rwa [Position.after_append, Position.after_append] at joined

theorem aligned_here {f g : Position → Position} {p q : Position} (aligned : Aligned f g p q) :
    f p = g q := aligned []

theorem scan_only_blanks (p : Position) {cs : List Char} (blank : cs.dropWhile isBlank = []) :
    Lexed.scan p cs = ⟨[], none, p.after (cs.takeWhile isBlank)⟩ := by
  rw [Lexed.scan]
  split
  · rfl
  · rename_i found
    rw [blank] at found
    cases found

theorem scan_lexeme (p : Position) {cs tail : List Char} {c : Char}
    (first : cs.dropWhile isBlank = c :: tail) :
    Lexed.scan p cs =
      let start := p.after (cs.takeWhile isBlank)
      let stop := start.after (scanLexeme c tail).taken
      match (scanLexeme c tail).result with
      | .error fault => ⟨[], some (fault, ⟨start, stop⟩), stop⟩
      | .ok lexeme =>
        let after := Lexed.scan stop (scanLexeme c tail).rest
        { after with lexemes := (lexeme, ⟨start, stop⟩) :: after.lexemes } := by
  rw [Lexed.scan]
  split
  · rename_i found
    rw [first] at found
    cases found
  · rename_i found
    rw [first] at found
    obtain ⟨rfl, rfl⟩ := List.cons.inj found
    rfl

theorem scan_relocate {f g : Position → Position} {p q : Position} (aligned : Aligned f g p q)
    (cs : List Char) :
    (Lexed.scan p cs).relocate f = (Lexed.scan q cs).relocate g := by
  induction size : cs.length using Nat.strongRecOn generalizing p q cs with
  | ind n ih =>
    have begun := aligned_after aligned (cs.takeWhile isBlank)
    cases first : cs.dropWhile isBlank with
    | nil =>
      rw [scan_only_blanks p first, scan_only_blanks q first]
      simp only [Lexed.relocate, relocateLexemes, List.map_nil, Option.map_none,
        aligned_here begun]
    | cons c tail =>
      rw [scan_lexeme p first, scan_lexeme q first]
      have ended := aligned_after begun (scanLexeme c tail).taken
      dsimp only
      cases (scanLexeme c tail).result with
      | error fault =>
        simp only [Lexed.relocate, relocateLexemes, List.map_nil, Option.map_some, Span.relocate,
          aligned_here begun, aligned_here ended]
      | ok lexeme =>
        have shorter : (scanLexeme c tail).rest.length < n := by
          have one := scanLexeme_length c tail
          have two := (List.dropWhile_suffix (l := cs) isBlank).length_le
          rw [first] at two
          omega
        have later := ih _ shorter ended (scanLexeme c tail).rest rfl
        simp only [Lexed.relocate, Lexed.mk.injEq] at later
        simp only [Lexed.relocate, relocateLexemes, List.map_cons, Span.relocate,
          aligned_here begun, aligned_here ended, Lexed.mk.injEq, List.cons.injEq, true_and]
        exact later

end TitleTemplate
