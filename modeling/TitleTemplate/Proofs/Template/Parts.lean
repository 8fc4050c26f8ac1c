import TitleTemplate.Proofs.Template.Guards
import TitleTemplate.Proofs.Template.Phrases

/-!
The parts of a template. Every node, however deep, was read from tokens that are a body by
themselves, and every condition in a condition from lexemes that are a condition by themselves; the
span says where these stand. So the text of a part, read alone, gives the part again.
-/
namespace TitleTemplate

mutual

def Node.within : Node → List Node
  | .literal text span => [.literal text span]
  | .output operand span => [.output operand span]
  | .conditional arms span => .conditional arms span :: arms.within

def Arms.within : Arms → List Node
  | .guarded _ body rest => nodesWithin body ++ rest.within
  | .otherwise body => nodesWithin body
  | .done => []

def nodesWithin : List Node → List Node
  | [] => []
  | n :: ns => n.within ++ nodesWithin ns

end

def Condition.parts : Condition → List Condition
  | .truthy operand span => [.truthy operand span]
  | .compare left op right span => [.compare left op right span]
  | .not inner span => .not inner span :: inner.parts
  | .and left right span => .and left right span :: (left.parts ++ right.parts)
  | .or left right span => .or left right span :: (left.parts ++ right.parts)

/-- Spans that follow each other from one place to another. -/
def Contiguous (start stop : Position) : List Span → Prop
  | [] => start = stop
  | s :: ss => s.start = start ∧ Contiguous s.stop stop ss

/-! A part asks no more of the limit than the whole does. -/

mutual

theorem keeps_within {limit depth : Nat} {n m : Node} (member : m ∈ n.within)
    (keeps : Keeps limit depth n.nesting n.guards) : Keeps limit depth m.nesting m.guards := by
  match n with
  | .literal text span | .output operand span =>
    obtain rfl := List.mem_singleton.1 member
    exact keeps
  | .conditional arms span =>
    rcases List.mem_cons.1 member with rfl | inside
    · exact keeps
    · rw [Node.nesting, Node.guards] at keeps
      exact keeps_within_arms inside ⟨by have := keeps.blocks; omega, keeps.guards⟩

theorem keeps_within_arms {limit depth : Nat} {arms : Arms} {m : Node} (member : m ∈ arms.within)
    (keeps : Keeps limit depth arms.nesting arms.guards) :
    Keeps limit depth m.nesting m.guards := by
  obtain ⟨blocks, guards⟩ := keeps
  match arms with
  | .guarded guard body rest =>
    rw [Arms.nesting] at blocks
    rw [Arms.guards, List.forall_mem_cons, List.forall_mem_append] at guards
    rcases List.mem_append.1 member with inBody | inRest
    · exact keeps_within_nodes inBody ⟨by omega, guards.2.1⟩
    · exact keeps_within_arms inRest ⟨by omega, guards.2.2⟩
  | .otherwise body => exact keeps_within_nodes member ⟨blocks, guards⟩
  | .done => cases member

theorem keeps_within_nodes {limit depth : Nat} {ns : List Node} {m : Node}
    (member : m ∈ nodesWithin ns)
    (keeps : Keeps limit depth (nestingWithin ns) (guardsWithin ns)) :
    Keeps limit depth m.nesting m.guards := by
  obtain ⟨blocks, guards⟩ := keeps
  match ns with
  | [] => cases member
  | n :: ns =>
    rw [nestingWithin] at blocks
    rw [guardsWithin, List.forall_mem_append] at guards
    rcases List.mem_append.1 member with here | later
    · exact keeps_within here ⟨by omega, guards.1⟩
    · exact keeps_within_nodes later ⟨by omega, guards.2⟩

end

/-! The pieces of a node. -/

theorem body_split {ps : List (Piece × Span)} {n : Node} {ns : List Node}
    (body : IsBody ps (n :: ns)) :
    ∃ qs rs, ps = qs ++ rs ∧ IsBody qs [n] ∧ IsBody rs ns := by
  generalize whole : n :: ns = nodes at body
  match body with
  | .nil => cases whole
  | @IsBody.text ps others chars span later =>
    cases others with
    | nil =>
      obtain ⟨rfl, rfl⟩ := List.cons.inj whole
      exact ⟨[_], ps, rfl, .text chars span .nil, later⟩
    | cons m ms =>
      cases m with
      | literal text place =>
        obtain ⟨rfl, rfl⟩ := List.cons.inj whole
        obtain ⟨qs, rs, rfl, first, rest⟩ := body_split later
        exact ⟨_ :: qs, rs, rfl, .text chars span first, rest⟩
      | output | conditional =>
        obtain ⟨rfl, rfl⟩ := List.cons.inj whole
        exact ⟨[_], ps, rfl, .text chars span .nil, later⟩
  | .output o span later =>
    obtain ⟨rfl, rfl⟩ := List.cons.inj whole
    exact ⟨[_], _, rfl, .output o span .nil, later⟩
  | @IsBody.conditional inner more ps _ _ _ _ guard opened first others later =>
    obtain ⟨rfl, rfl⟩ := List.cons.inj whole
    have alone := IsBody.conditional guard opened first others .nil
    rw [List.append_nil] at alone
    exact ⟨_, ps, by simp, alone, later⟩

theorem within_text {text : String} {span : Span} {ns : List Node} {n : Node}
    (member : n ∈ nodesWithin (joined [.literal text span] ns)) :
    (∃ ms, joined [.literal text span] ns = n :: ms) ∨ n ∈ nodesWithin ns := by
  cases ns with
  | nil =>
    obtain rfl := List.mem_singleton.1 member
    exact Or.inl ⟨[], rfl⟩
  | cons m ms =>
    cases m with
    | literal other place =>
      rcases List.mem_cons.1 member with rfl | later
      · exact Or.inl ⟨ms, rfl⟩
      · exact Or.inr (List.mem_cons_of_mem _ later)
    | output | conditional =>
      rcases List.mem_cons.1 member with rfl | later
      · exact Or.inl ⟨_, rfl⟩
      · exact Or.inr later

mutual

theorem node_pieces {ps : List (Piece × Span)} {ns : List Node} {n : Node} (body : IsBody ps ns)
    (member : n ∈ nodesWithin ns) : ∃ qs, qs <:+: ps ∧ IsBody qs [n] := by
  match body with
  | .nil => cases member
  | .text chars span later =>
    rcases within_text member with ⟨ms, first⟩ | inside
    · have whole := IsBody.text chars span later
      rw [first] at whole
      obtain ⟨qs, rs, shape, alone, _⟩ := body_split whole
      exact ⟨qs, shape ▸ (List.prefix_append qs rs).isInfix, alone⟩
    · obtain ⟨qs, part, alone⟩ := node_pieces later inside
      exact ⟨qs, List.infix_cons part, alone⟩
  | .output o span later =>
    rcases List.mem_cons.1 member with rfl | inside
    · exact ⟨[_], (List.prefix_append [_] _).isInfix, .output o span .nil⟩
    · obtain ⟨qs, part, alone⟩ := node_pieces later inside
      exact ⟨qs, List.infix_cons part, alone⟩
  | @IsBody.conditional inner more ps _ _ _ _ guard opened first others later =>
    have inInner := (List.prefix_append inner (more ++ ps)).isInfix
    have inMore := (List.infix_append inner more ps)
    have inRest := (List.suffix_append (inner ++ more) ps).isInfix
    rw [List.append_assoc] at inMore inRest
    simp only [nodesWithin, Node.within, Arms.within, List.cons_append, List.mem_cons,
      List.mem_append] at member
    rcases member with rfl | (inFirst | inOthers) | inLater
    · obtain ⟨qs, rs, shape, alone, _⟩ :=
        body_split (.conditional guard opened first others later)
      exact ⟨qs, shape ▸ (List.prefix_append qs rs).isInfix, alone⟩
    · obtain ⟨qs, part, alone⟩ := node_pieces first inFirst
      exact ⟨qs, List.infix_cons (part.trans inInner), alone⟩
    · obtain ⟨qs, part, alone⟩ := arms_pieces others inOthers
      exact ⟨qs, List.infix_cons (part.trans inMore), alone⟩
    · obtain ⟨qs, part, alone⟩ := node_pieces later inLater
      exact ⟨qs, List.infix_cons (part.trans inRest), alone⟩

theorem arms_pieces {ps : List (Piece × Span)} {arms : Arms} {closed : Span} {n : Node}
    (others : AreArms ps arms closed) (member : n ∈ arms.within) :
    ∃ qs, qs <:+: ps ∧ IsBody qs [n] := by
  match others with
  | @AreArms.elseIf inner more _ _ _ guard span first others =>
    rcases List.mem_append.1 member with inFirst | inOthers
    · obtain ⟨qs, part, alone⟩ := node_pieces first inFirst
      exact ⟨qs, List.infix_cons (part.trans (List.prefix_append inner more).isInfix), alone⟩
    · obtain ⟨qs, part, alone⟩ := arms_pieces others inOthers
      exact ⟨qs, List.infix_cons (part.trans (List.suffix_append inner more).isInfix), alone⟩
  | .otherwise span closed last =>
    obtain ⟨qs, part, alone⟩ := node_pieces last member
    exact ⟨qs, List.infix_cons (part.trans (List.prefix_append _ _).isInfix), alone⟩
  | .done closed => cases member

end

/-! Where the pieces of a node stand. -/

theorem piece_span {t : Token × Span} {piece : Piece × Span} (isPiece : IsPiece t piece) :
    piece.2 = t.2 := by
  cases isPiece <;> rfl

theorem arms_stop {ps : List (Piece × Span)} {arms : Arms} {closed : Span}
    (others : AreArms ps arms closed) {p : Position} {ts : List Token}
    (arePieces : List.Forall₂ IsPiece (Token.locate p ts) ps) :
    closed.stop = p.after (ts.flatMap Token.source) := by
  obtain ⟨before, rfl⟩ := arms_end others
  obtain ⟨first, second, located, _, isClose⟩ := forall₂_append arePieces
  obtain ⟨us, vs, rfl, _, last⟩ := Token.locate_eq_append located
  rw [last] at isClose
  cases vs with
  | nil => cases isClose
  | cons v vs =>
    cases isClose with
    | cons isPiece none =>
      cases vs with
      | cons => cases none
      | nil =>
        have stop := congrArg Span.stop (piece_span isPiece)
        simp only [List.flatMap_append, List.flatMap_cons, List.flatMap_nil, List.append_nil,
          Position.after_append]
        exact stop

theorem contiguous_text {text : String} {start next stop : Position} {ns : List Node}
    (later : Contiguous next stop (ns.map Node.span)) :
    Contiguous start stop ((joined [.literal text ⟨start, next⟩] ns).map Node.span) := by
  cases ns with
  | nil => exact ⟨rfl, later⟩
  | cons n ns =>
    cases n with
    | literal other place => exact ⟨rfl, later.2⟩
    | output | conditional => exact ⟨rfl, later⟩

theorem body_contiguous {ps : List (Piece × Span)} {ns : List Node} (body : IsBody ps ns)
    {p : Position} {ts : List Token} (arePieces : List.Forall₂ IsPiece (Token.locate p ts) ps) :
    Contiguous p (p.after (ts.flatMap Token.source)) (ns.map Node.span) := by
  match body, ts with
  | .nil, [] => rfl
  | .nil, t :: ts => cases arePieces
  | .text .., [] | .output .., [] | .conditional .., [] => cases arePieces
  | .text chars span later, t :: ts =>
    cases arePieces with
    | cons isPiece arePieces =>
      obtain rfl := piece_span isPiece
      have rest := body_contiguous later arePieces
      rw [List.flatMap_cons, Position.after_append]
      exact contiguous_text rest
  | .output o span later, t :: ts =>
    cases arePieces with
    | cons isPiece arePieces =>
      obtain rfl := piece_span isPiece
      have rest := body_contiguous later arePieces
      rw [List.flatMap_cons, Position.after_append]
      exact ⟨rfl, rest⟩
  | @IsBody.conditional _ _ _ _ ms _ closed guard opened first others later, t :: ts =>
    cases arePieces with
    | cons isPiece arePieces =>
      obtain rfl := piece_span isPiece
      obtain ⟨_, _, located, _, arePieces⟩ := forall₂_append arePieces
      obtain ⟨us, vs, rfl, _, rfl⟩ := Token.locate_eq_append located
      obtain ⟨_, _, located, areOthers, areLater⟩ := forall₂_append arePieces
      obtain ⟨vs, ws, rfl, rfl, rfl⟩ := Token.locate_eq_append located
      have rest := body_contiguous later areLater
      simp only [List.flatMap_cons, List.flatMap_append, Position.after_append]
      refine ⟨rfl, ?_⟩
      change Contiguous closed.stop _ (ms.map Node.span)
      rw [arms_stop others areOthers]
      exact rest

theorem node_span {ps : List (Piece × Span)} {n : Node} (alone : IsBody ps [n]) {p : Position}
    {ts : List Token} (arePieces : List.Forall₂ IsPiece (Token.locate p ts) ps) :
    n.span = ⟨p, p.after (ts.flatMap Token.source)⟩ := by
  obtain ⟨start, stop⟩ := body_contiguous alone arePieces
  exact congrArg₂ Span.mk start stop

theorem body_reads (limit : Nat) {ps : List (Piece × Span)} {ns : List Node} {p : Position}
    {ts : List Token} (body : IsBody ps ns)
    (arePieces : List.Forall₂ IsPiece (Token.locate p ts) ps)
    (scanned : Token.scan (ts.flatMap Token.source) = ts)
    (keeps : Keeps limit 0 (nestingWithin ns) (guardsWithin ns)) :
    ∃ ms, parse limit (String.ofList (ts.flatMap Token.source)) = .ok ms ∧
      plainNodes ms = plainNodes ns := by
  have run := (body_eqWhen limit body arePieces .start (Nat.zero_le limit)).same keeps
  have plain := tokens_plain limit .start p ts
  rw [run] at plain
  have read : outline limit .start (ts.flatMap Token.source) =
      some ((Progress.start.add ns).relocate noPosition) := by
    rw [outline, scanned]
    exact plain.symm
  refine parse_of_outline ?_
  rw [read]
  exact (finish_plain (Progress.start.add ns)).symm.trans
    (by simp [Progress.start, Progress.add, Progress.modifyBody, Progress.finish, Except.toOption])

theorem node_reads {limit : Nat} {template : String} {ns : List Node} {n : Node}
    (parsed : parse limit template = .ok ns) (member : n ∈ nodesWithin ns) :
    ∃ part, n.span.Covers template.toList part ∧
      ∃ m, parse limit (String.ofList part) = .ok [m] ∧
        m.relocate noPosition = n.relocate noPosition := by
  have keeps := keeps_within_nodes member (keeps_of_parse parsed)
  obtain ⟨pieces, arePieces, body⟩ := parse_sound parsed
  obtain ⟨qs, ⟨before, after, rfl⟩, alone⟩ := node_pieces body member
  obtain ⟨_, _, located, arePieces, _⟩ := forall₂_append arePieces
  obtain ⟨_, ws, scanned, rfl, _⟩ := Token.locate_eq_append located
  obtain ⟨_, _, located, _, arePieces⟩ := forall₂_append arePieces
  obtain ⟨us, vs, rfl, _, rfl⟩ := Token.locate_eq_append located
  rw [List.append_assoc] at scanned
  have source := Token.scan_source template.toList
  rw [scanned, List.flatMap_append, List.flatMap_append] at source
  obtain ⟨ms, read, plain⟩ := body_reads limit alone arePieces
    (Token.scan_excerpt scanned) (by simpa [nestingWithin, guardsWithin] using keeps)
  simp only [plainNodes, relocateNodes_eq_map, List.map_cons, List.map_nil,
    List.map_eq_singleton_iff] at plain
  obtain ⟨m, rfl, same⟩ := plain
  exact ⟨_, ⟨_, _, source.symm, node_span alone arePieces⟩, m, read, same⟩

/-! The lexemes of a condition in a condition. -/

section Phrases
variable {ls : List (Lexeme × Span)} {c part : Condition} {m : Scope → Bool}

theorem disjunction_span (condition : IsDisjunction ls c m) : c.span = extent ls := by
  cases condition with
  | or => rfl
  | one only =>
    cases only with
    | and => rfl
    | one only =>
      cases only with
      | not => rfl
      | atom single => cases single <;> rfl

theorem unary_part (unary : IsUnary ls c m) (member : part ∈ c.parts) :
    ∃ ms k, ms <:+: ls ∧ IsDisjunction ms part k := by
  induction unary with
  | @atom ls c m single plain =>
    have itself : part = c := by
      cases single <;> exact List.mem_singleton.1 member
    rw [itself]
    exact ⟨ls, m, List.infix_refl ls, .one (.one (.atom single plain))⟩
  | not word inner ih =>
    rcases List.mem_cons.1 member with rfl | inside
    · exact ⟨_, _, List.infix_refl _, .one (.one (.not word inner))⟩
    · obtain ⟨ms, k, found, condition⟩ := ih inside
      exact ⟨ms, k, List.infix_cons found, condition⟩

theorem sides_infix (ls : List (Lexeme × Span)) (word : Lexeme × Span)
    (ms : List (Lexeme × Span)) : ls <:+: ls ++ word :: ms ∧ ms <:+: ls ++ word :: ms :=
  ⟨(List.prefix_append ls _).isInfix,
    ((List.suffix_cons word ms).trans (List.suffix_append ls _)).isInfix⟩

theorem conjunction_part (conjunction : IsConjunction ls c m) (member : part ∈ c.parts) :
    ∃ ms k, ms <:+: ls ∧ IsDisjunction ms part k := by
  induction conjunction with
  | one only => exact unary_part only member
  | @and ls ms _ _ _ _ word before last ih =>
    obtain ⟨inLeft, inRight⟩ := sides_infix ls (.word "and", word) ms
    rcases List.mem_cons.1 member with rfl | inside
    · exact ⟨_, _, List.infix_refl _, .one (.and word before last)⟩
    · rcases List.mem_append.1 inside with left | right
      · obtain ⟨us, k, found, condition⟩ := ih left
        exact ⟨us, k, found.trans inLeft, condition⟩
      · obtain ⟨us, k, found, condition⟩ := unary_part last right
        exact ⟨us, k, found.trans inRight, condition⟩

theorem disjunction_part (disjunction : IsDisjunction ls c m) (member : part ∈ c.parts) :
    ∃ ms k, ms <:+: ls ∧ IsDisjunction ms part k := by
  induction disjunction with
  | one only => exact conjunction_part only member
  | @or ls ms _ _ _ _ word before last ih =>
    obtain ⟨inLeft, inRight⟩ := sides_infix ls (.word "or", word) ms
    rcases List.mem_cons.1 member with rfl | inside
    · exact ⟨_, _, List.infix_refl _, .or word before last⟩
    · rcases List.mem_append.1 inside with left | right
      · obtain ⟨us, k, found, condition⟩ := ih left
        exact ⟨us, k, found.trans inLeft, condition⟩
      · obtain ⟨us, k, found, condition⟩ := conjunction_part last right
        exact ⟨us, k, found.trans inRight, condition⟩

theorem part_negations (member : part ∈ c.parts) : part.negations ≤ c.negations := by
  induction c with
  | truthy | compare =>
    obtain rfl := List.mem_singleton.1 member
    exact Nat.le_refl _
  | not inner span ih =>
    rcases List.mem_cons.1 member with rfl | inside
    · exact Nat.le_refl _
    · exact Nat.le_trans (ih inside) (Nat.le_max_right _ _)
  | and left right span first second | or left right span first second =>
    rcases List.mem_cons.1 member with rfl | inside
    · exact Nat.le_refl _
    · rcases List.mem_append.1 inside with inLeft | inRight
      · exact Nat.le_trans (first inLeft) (Nat.le_max_left _ _)
      · exact Nat.le_trans (second inRight) (Nat.le_max_right _ _)

theorem leading_relocate (f : Position → Position) (c : Condition) :
    (c.relocate f).leading = c.leading := by
  induction c with
  | truthy | compare | and | or => rfl
  | not inner span ih => rw [Condition.relocate, Condition.leading, Condition.leading, ih]

theorem negations_relocate (f : Position → Position) (c : Condition) :
    (c.relocate f).negations = c.negations := by
  induction c with
  | truthy | compare => rfl
  | not inner span ih =>
    rw [Condition.relocate, Condition.negations, Condition.negations, ih, leading_relocate]
  | and left right span first second | or left right span first second =>
    rw [Condition.relocate, Condition.negations, Condition.negations, first, second]

theorem phrase_relocate (condition : IsDisjunction ls c m) (f : Position → Position) :
    ∃ k, IsDisjunction (relocateLexemes f ls) (c.relocate f) k := by
  let r : Reading := ⟨default, none, ls.length⟩
  have read := Reading.condition_complete (r := r) condition (Nat.le_refl _) rfl
  have moved := Reading.condition_relocate f r ls
  rw [read] at moved
  exact (Reading.condition_sound moved.symm).2

end Phrases

theorem condition_lexed {limit : Nat} {template : String} {ns : List Node} {guard c : Condition}
    (parsed : parse limit template = .ok ns) (member : guard ∈ guardsWithin ns)
    (inside : c ∈ guard.parts) :
    ∃ part ms k, c.span.Covers template.toList part ∧ Enclosed part ∧
      plainLexed part = ⟨relocateLexemes noPosition ms, none, default⟩ ∧ IsDisjunction ms c k := by
  obtain ⟨inner, span, token, clean, word, ls, m, shape, whole⟩ := guard_source parsed member
  obtain ⟨ms, k, ⟨before, after, rfl⟩, condition⟩ := disjunction_part whole inside
  obtain ⟨start, stop, source, rfl⟩ := token_covers token
  have lexemes : word :: (before ++ ms ++ after) = (word :: before) ++ (ms ++ after) := by simp
  obtain ⟨a, part, b, rfl, inFront, inPart, read, between, extent⟩ :=
    lexed_excerpt clean (shape.trans lexemes) (disjunction_ne_nil condition)
  have enclosed : Enclosed part := by
    have expression : Token.expression (a ++ (part ++ b)) ∈ Token.scan template.toList := by
      rw [← Token.locate_tokens .first (Token.scan template.toList)]
      exact List.mem_map_of_mem token
    have rest := (enclosed_parts inFront (Token.enclosed_of_scan expression).1).2
    exact (enclosed_parts inPart rest).1
  have lexed : plainLexed part = ⟨relocateLexemes noPosition ms, none, default⟩ := by
    rw [← scan_plain _ part, Lexed.relocate, read, between]
    rfl
  refine ⟨part, ms, k, ⟨start ++ '\x7b' :: a, b ++ '\x7d' :: stop, ?_, ?_⟩, enclosed, lexed,
    condition⟩
  · rw [source]
    simp [Token.source]
  · rw [disjunction_span condition, extent, Position.after_append]
    rfl

theorem condition_reads {limit : Nat} {template : String} {ns : List Node} {guard c : Condition}
    (parsed : parse limit template = .ok ns) (member : guard ∈ guardsWithin ns)
    (inside : c ∈ guard.parts) :
    ∃ part, c.span.Covers template.toList part ∧
      ∃ d span, parse limit (asking (String.ofList part)) =
          .ok [.conditional (.guarded d [] .done) span] ∧
        d.relocate noPosition = c.relocate noPosition := by
  have shallow := Nat.lt_of_le_of_lt (part_negations inside)
    ((keeps_of_parse parsed).guards guard member)
  obtain ⟨part, ms, _, covers, enclosed, lexed, condition⟩ := condition_lexed parsed member inside
  obtain ⟨k, plain⟩ := phrase_relocate condition noPosition
  obtain ⟨d, place, found, same⟩ := asking_parsed enclosed lexed plain
    (by rw [negations_relocate]; exact shallow)
  exact ⟨part, covers, d, place, found, same⟩

/-- What spans say of the parts of a template is true: the text of a node is read as this node and
nothing else, the text of a condition is one that asks the same, and the nodes outside of all
others make up the template. -/
theorem parts_read_alone {limit : Nat} {template : String} {ns : List Node}
    (parsed : parse limit template = .ok ns) :
    (∀ n ∈ nodesWithin ns, ∃ m, parse limit (n.span.slice template) = .ok [m] ∧
      m.relocate noPosition = n.relocate noPosition) ∧
    (∀ guard ∈ guardsWithin ns, ∀ c ∈ guard.parts, ∃ d span,
      parse limit ("\x7bif " ++ c.span.slice template ++ "\x7d\x7b/if\x7d") =
          .ok [.conditional (.guarded d [] .done) span] ∧
        d.relocate noPosition = c.relocate noPosition) ∧
    Contiguous .first (Position.first.after template.toList) (ns.map Node.span) := by
  refine ⟨fun n member => ?_, fun guard member c inside => ?_, ?_⟩
  · obtain ⟨part, covers, found⟩ := node_reads parsed member
    rw [slice_of_covers covers]
    exact found
  · obtain ⟨part, covers, found⟩ := condition_reads parsed member inside
    rw [slice_of_covers covers]
    exact found
  · obtain ⟨pieces, arePieces, body⟩ := parse_sound parsed
    have whole := body_contiguous body arePieces
    rwa [Token.scan_source] at whole

/-- A brace in a text, a conditional in a conditional, and characters of more than one byte. -/
theorem parts_read_alone_nested :
    let inner := "\x7bif w ~ 'é' \x7d\x7bz|upper\x7d\x7b/if\x7d"
    let outer := "\x7bif x and not  y\x7d" ++ inner ++ "\n\x7b/if\x7d"
    let template := "é\x7b\x7b" ++ outer
    ∃ ns, parse 2 template = .ok ns ∧
      (nodesWithin ns).map (·.span.slice template) =
        ["é\x7b\x7b", outer, inner, "\x7bz|upper\x7d", "\n"] ∧
      ((guardsWithin ns).flatMap Condition.parts).map (·.span.slice template) =
        ["x and not  y", "x", "not  y", "y", "w ~ 'é'"] ∧
      (∀ n ∈ nodesWithin ns, ∃ m, parse 2 (n.span.slice template) = .ok [m] ∧
        m.relocate noPosition = n.relocate noPosition) ∧
      ∀ guard ∈ guardsWithin ns, ∀ c ∈ guard.parts, ∃ d span,
        parse 2 ("\x7bif " ++ c.span.slice template ++ "\x7d\x7b/if\x7d") =
            .ok [.conditional (.guarded d [] .done) span] ∧
          d.relocate noPosition = c.relocate noPosition := by
  intro inner outer template
  have slices : ((parse 2 template).toOption.map fun ns =>
      ((nodesWithin ns).map (·.span.slice template),
        ((guardsWithin ns).flatMap Condition.parts).map (·.span.slice template))) =
      some (["é\x7b\x7b", outer, inner, "\x7bz|upper\x7d", "\n"],
        ["x and not  y", "x", "not  y", "y", "w ~ 'é'"]) := by decide +kernel
  obtain ⟨ns, parsed, texts⟩ := parsed_of_map slices
  obtain ⟨nodes, conditions⟩ := Prod.mk.inj texts
  obtain ⟨alone, asked, _⟩ := parts_read_alone parsed
  exact ⟨ns, parsed, nodes, conditions, alone, asked⟩

end TitleTemplate
