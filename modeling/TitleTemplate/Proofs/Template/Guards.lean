import TitleTemplate.Proofs.Template.Lexing
import TitleTemplate.Proofs.Template.Threshold

/-!
The conditions of a template, one by one. Each has been read from the lexemes of one expression,
and a template that asks a single condition and nothing else has that condition, wherever it has
been read before.
-/
namespace TitleTemplate

mutual

theorem guards_of_body {ps : List (Piece × Span)} {ns : List Node} {c : Condition}
    (body : IsBody ps ns) (member : c ∈ guardsWithin ns) :
    ∃ item span, (Piece.item item, span) ∈ ps ∧ c ∈ item.guard? := by
  match body with
  | .nil => cases member
  | .text chars span later =>
    rw [guards_text] at member
    obtain ⟨item, place, brought⟩ := guards_of_body later member
    exact ⟨item, place, List.mem_cons_of_mem _ brought.1, brought.2⟩
  | .output o span later =>
    rw [guardsWithin, Node.guards, List.nil_append] at member
    obtain ⟨item, place, brought⟩ := guards_of_body later member
    exact ⟨item, place, List.mem_cons_of_mem _ brought.1, brought.2⟩
  | .conditional guard opened first others later =>
    simp only [guardsWithin, Node.guards, Arms.guards, List.cons_append, List.mem_cons,
      List.mem_append] at member
    rcases member with rfl | (inFirst | inOthers) | inLater
    · exact ⟨.openIf c, opened, List.mem_cons_self, rfl⟩
    · obtain ⟨item, place, brought⟩ := guards_of_body first inFirst
      exact ⟨item, place, by simp [brought.1], brought.2⟩
    · obtain ⟨item, place, brought⟩ := guards_of_arms others inOthers
      exact ⟨item, place, by simp [brought.1], brought.2⟩
    · obtain ⟨item, place, brought⟩ := guards_of_body later inLater
      exact ⟨item, place, by simp [brought.1], brought.2⟩

theorem guards_of_arms {ps : List (Piece × Span)} {arms : Arms} {closed : Span} {c : Condition}
    (others : AreArms ps arms closed) (member : c ∈ arms.guards) :
    ∃ item span, (Piece.item item, span) ∈ ps ∧ c ∈ item.guard? := by
  match others with
  | .elseIf guard span first others =>
    simp only [Arms.guards, List.mem_cons, List.mem_append] at member
    rcases member with rfl | inFirst | inOthers
    · exact ⟨.elseIf c, span, List.mem_cons_self, rfl⟩
    · obtain ⟨item, place, brought⟩ := guards_of_body first inFirst
      exact ⟨item, place, by simp [brought.1], brought.2⟩
    · obtain ⟨item, place, brought⟩ := guards_of_arms others inOthers
      exact ⟨item, place, by simp [brought.1], brought.2⟩
  | .otherwise span closed last =>
    rw [Arms.guards] at member
    obtain ⟨item, place, brought⟩ := guards_of_body last member
    exact ⟨item, place, by simp [brought.1], brought.2⟩
  | .done closed => cases member

end

theorem phrase_of_asks {inner : List Char} {lexed : Lexed} {item : Item} {c : Condition}
    (asks : Asks inner lexed item) (brings : c ∈ item.guard?) :
    lexed.fault = none ∧ ∃ word ls m, lexed.lexemes = word :: ls ∧ IsDisjunction ls c m := by
  cases asks with
  | output | otherwise | closeIf => cases brings
  | openIf kind clean shape condition | elseIf kind clean shape condition =>
    obtain rfl := Option.some.inj brings
    exact ⟨clean, _, _, _, shape, condition⟩

theorem guard_source {limit : Nat} {template : String} {ns : List Node} {c : Condition}
    (parsed : parse limit template = .ok ns) (member : c ∈ guardsWithin ns) :
    ∃ inner span, (.expression inner, span) ∈ Token.ofTemplate template ∧
      (Lexed.ofExpression span.start inner).fault = none ∧ ∃ word ls m,
        (Lexed.ofExpression span.start inner).lexemes = word :: ls ∧ IsDisjunction ls c m := by
  obtain ⟨pieces, arePieces, body⟩ := parse_sound parsed
  obtain ⟨item, place, inside, brings⟩ := guards_of_body body member
  obtain ⟨before, after, rfl⟩ := List.append_of_mem inside
  obtain ⟨_, rest, tokens, _, areRest⟩ := forall₂_append arePieces
  cases areRest with
  | cons isPiece _ =>
    cases isPiece with
    | @expression inner _ span asks =>
      exact ⟨inner, place, by simp [tokens], phrase_of_asks asks brings⟩

theorem keeps_of_parse {limit : Nat} {template : String} {ns : List Node}
    (parsed : parse limit template = .ok ns) :
    Keeps limit 0 (nestingWithin ns) (guardsWithin ns) := by
  obtain ⟨pieces, arePieces, body⟩ := parse_sound parsed
  by_contra broken
  obtain ⟨fault, refused, _⟩ := (parse_eqWhen limit arePieces body).tooDeep broken
  rw [parsed] at refused
  cases refused

def asking (phrase : String) : String := "\x7bif " ++ phrase ++ "\x7d\x7b/if\x7d"

theorem asking_ofList (phrase : List Char) :
    asking (String.ofList phrase) =
      String.ofList (braced ("if ".toList ++ phrase) ++ braced "/if".toList) := by
  rw [← String.toList_inj, asking]
  simp [braced]

theorem itemOf_if {limit : Nat} {phrase : List Char} {ls : List (Lexeme × Span)} {c : Condition}
    {m : Scope → Bool} (read : plainLexed phrase = ⟨ls, none, default⟩)
    (condition : IsDisjunction ls c m) (shallow : c.negations < limit) :
    itemOf limit ("if ".toList ++ phrase) = some (.openIf c) := by
  have lexed : plainLexed ("if ".toList ++ phrase) =
      ⟨(.word "if", default) :: ls, none, default⟩ := by
    rw [plainLexed_if, read]
    rfl
  have some : ("if ".toList ++ phrase).all isBlank = false := rfl
  have found := (guarded_eqWhen limit default "if" (congrArg Lexed.fault lexed)
    (congrArg Lexed.lexemes lexed) condition).same shallow
  rw [itemOf, Item.read, some, directive_if]
  simp only [Bool.false_eq_true, ↓reduceIte, found]
  rfl

theorem guarded_of_plain {ns body : List Node} {c : Condition} {rest : Arms} {opened : Span}
    (plain : plainNodes ns = [.conditional (.guarded c body rest) opened]) :
    ∃ d inner others span, ns = [.conditional (.guarded d inner others) span] ∧
      d.relocate noPosition = c ∧ plainNodes inner = body ∧
        others.relocate noPosition = rest := by
  rw [plainNodes, relocateNodes_eq_map, List.map_eq_singleton_iff] at plain
  obtain ⟨n, rfl, same⟩ := plain
  cases n with
  | literal | output => cases same
  | conditional arms span =>
    cases arms with
    | otherwise | done => cases same
    | guarded d inner others =>
      rw [Node.relocate, Arms.relocate, Node.conditional.injEq, Arms.guarded.injEq] at same
      obtain ⟨⟨guard, nodes, arms⟩, _⟩ := same
      exact ⟨d, inner, others, span, rfl, guard, nodes, arms⟩

theorem eq_asking_of_plain {ns : List Node} {c : Condition}
    (plain : plainNodes ns = [.conditional (.guarded c [] .done) default]) :
    ∃ d span, ns = [.conditional (.guarded d [] .done) span] ∧ d.relocate noPosition = c := by
  obtain ⟨d, inner, others, span, rfl, same, nodes, arms⟩ := guarded_of_plain plain
  rw [plainNodes, relocateNodes_eq_map, List.map_eq_nil_iff] at nodes
  cases others with
  | guarded | otherwise => cases arms
  | done => exact ⟨d, span, nodes ▸ rfl, same⟩

theorem asking_parsed {limit : Nat} {phrase : List Char} {ls : List (Lexeme × Span)}
    {c : Condition} {m : Scope → Bool} (enclosed : Enclosed phrase)
    (read : plainLexed phrase = ⟨ls, none, default⟩) (condition : IsDisjunction ls c m)
    (shallow : c.negations < limit) :
    ∃ d span, parse limit (asking (String.ofList phrase)) =
        .ok [.conditional (.guarded d [] .done) span] ∧ d.relocate noPosition = c := by
  have spelled := spells_conditional (enclosed_if enclosed) (if_single phrase)
    (itemOf_if read condition shallow) spells_nil
  obtain ⟨ns, parsed, plain⟩ := parse_of_spells spelled (by omega)
  obtain ⟨d, span, rfl, same⟩ := eq_asking_of_plain plain
  rw [asking_ofList]
  exact ⟨d, span, parsed, same⟩

end TitleTemplate
