import TitleTemplate.Proofs.Template.Bodies

/-!
How deep a template is decides which limits it can be read with. The reader counts the conditionals
that are open and, from one anew in every condition, the words `not` it is behind; a derivation says
of each what the most is. So the limit either lets all of a template through or ends it with a fault
of depth, and what is read does not depend on it.
-/
namespace TitleTemplate

theorem forall₂_append {α β : Type} {related : α → β → Prop} {as : List α} {bs cs : List β}
    (both : List.Forall₂ related as (bs ++ cs)) :
    ∃ first second, as = first ++ second ∧ List.Forall₂ related first bs ∧
      List.Forall₂ related second cs :=
  ⟨as.take bs.length, as.drop bs.length, (List.take_append_drop bs.length as).symm,
    List.forall₂_take_append as bs cs both, List.forall₂_drop_append as bs cs both⟩

theorem nesting_text (text : String) (span : Span) (ns : List Node) :
    nestingWithin (joined [.literal text span] ns) = nestingWithin ns := by
  cases ns with
  | nil => rfl
  | cons n ns => cases n <;> simp [joined, nestingWithin, Node.nesting]

theorem guards_text (text : String) (span : Span) (ns : List Node) :
    guardsWithin (joined [.literal text span] ns) = guardsWithin ns := by
  cases ns with
  | nil => rfl
  | cons n ns => cases n <;> simp [joined, guardsWithin, Node.guards]

section Runs
variable {limit : Nat} {p q : Progress} {kept more : Prop} {z : Except Fault Progress}

theorem step_eqWhen {t : Token × Span} {ts : List (Token × Span)} {piece : Piece × Span}
    (isPiece : IsPiece t piece) (takes : Takes piece p q)
    (later : piece.1.Keeps limit p.blocks.length →
      EqWhen more (ts.foldlM (Progress.token limit) q) z) :
    EqWhen (piece.1.Keeps limit p.blocks.length ∧ more)
      ((t :: ts).foldlM (Progress.token limit) p) z := by
  have step := token_eqWhen limit p isPiece
  rw [takes_iff.2 takes] at step
  rw [List.foldlM_cons]
  exact eqWhen_trans (eqWhen_bind step _) later

theorem tokens_eqWhen {ts us : List (Token × Span)}
    (first : EqWhen kept (ts.foldlM (Progress.token limit) p) (.ok q))
    (later : kept → EqWhen more (us.foldlM (Progress.token limit) q) z) :
    EqWhen (kept ∧ more) ((ts ++ us).foldlM (Progress.token limit) p) z := by
  rw [List.foldlM_append]
  exact eqWhen_trans (eqWhen_bind first _) later

end Runs

theorem keeps_conditional {limit depth : Nat} {guard : Condition} {ns ms : List Node}
    {arms : Arms} {opened : Span} :
    Keeps limit depth (nestingWithin (.conditional (.guarded guard ns arms) opened :: ms))
        (guardsWithin (.conditional (.guarded guard ns arms) opened :: ms)) ↔
      (Piece.item (.openIf guard)).Keeps limit depth ∧
        Keeps limit (depth + 1) (nestingWithin ns) (guardsWithin ns) ∧
        Keeps limit (depth + 1) arms.nesting arms.guards ∧
        Keeps limit depth (nestingWithin ms) (guardsWithin ms) := by
  simp only [Piece.Keeps, Item.directive, Item.guard?, Option.mem_some_iff, forall_eq',
    forall_const, nestingWithin, guardsWithin, Node.nesting, Arms.nesting, Node.guards, Arms.guards]
  constructor
  · rintro ⟨blocks, guards⟩
    refine ⟨⟨by omega, guards guard (by simp)⟩, ⟨by omega, ?_⟩, ⟨by omega, ?_⟩, ⟨by omega, ?_⟩⟩
    all_goals
      intro c member
      exact guards c (by simp [member])
  · rintro ⟨⟨_, own⟩, ⟨first, inFirst⟩, ⟨others, inOthers⟩, ⟨later, inLater⟩⟩
    refine ⟨by omega, ?_⟩
    intro c member
    simp only [List.cons_append, List.mem_cons, List.mem_append] at member
    rcases member with rfl | (inner | inner) | inner
    · exact own
    · exact inFirst c inner
    · exact inOthers c inner
    · exact inLater c inner

theorem keeps_elseIf {limit depth : Nat} {guard : Condition} {ns : List Node} {arms : Arms} :
    Keeps limit depth (Arms.guarded guard ns arms).nesting (Arms.guarded guard ns arms).guards ↔
      (Piece.item (.elseIf guard)).Keeps limit depth ∧
        Keeps limit depth (nestingWithin ns) (guardsWithin ns) ∧
        Keeps limit depth arms.nesting arms.guards := by
  simp only [Piece.Keeps, Item.directive, Item.guard?, Option.mem_some_iff, forall_eq',
    reduceCtorEq, false_imp_iff, true_and, Arms.nesting, Arms.guards]
  constructor
  · rintro ⟨blocks, guards⟩
    refine ⟨guards guard (by simp), ⟨by omega, ?_⟩, ⟨by omega, ?_⟩⟩
    all_goals
      intro c member
      exact guards c (by simp [member])
  · rintro ⟨own, ⟨first, inFirst⟩, ⟨others, inOthers⟩⟩
    refine ⟨by omega, ?_⟩
    intro c member
    simp only [List.mem_cons, List.mem_append] at member
    rcases member with rfl | inner | inner
    · exact own
    · exact inFirst c inner
    · exact inOthers c inner

theorem close_run {limit : Nat} {t : Token × Span} {closed : Span}
    (isClose : IsPiece t (.item .closeIf, closed)) (b : OpenBlock) (nodes : List Node)
    (blocks : List OpenBlock) :
    [t].foldlM (Progress.token limit) ⟨nodes, b :: blocks⟩ = .ok (Progress.add ⟨nodes, blocks⟩
      [.conditional b.arms (b.opened.upTo closed.stop)]) := by
  have kept : (Piece.item .closeIf).Keeps limit (blocks.length + 1) := by
    simp [Piece.Keeps, Item.directive, Item.guard?]
  have step := (token_eqWhen limit ⟨nodes, b :: blocks⟩ isClose).same kept
  rw [takes_iff.2 (.closeIf closed b nodes blocks)] at step
  rw [List.foldlM_cons, step, add_single _ rfl]
  rfl

mutual

/-- The tokens of a body are taken in wherever it stands, as long as there is room for it. -/
theorem body_eqWhen (limit : Nat) {ts : List (Token × Span)} {ps : List (Piece × Span)}
    {ns : List Node} (body : IsBody ps ns) (arePieces : List.Forall₂ IsPiece ts ps)
    (p : Progress) (room : p.blocks.length ≤ limit) :
    EqWhen (Keeps limit p.blocks.length (nestingWithin ns) (guardsWithin ns))
      (ts.foldlM (Progress.token limit) p) (.ok (p.add ns)) := by
  match body with
  | .nil =>
    cases arePieces
    rw [add_nil]
    exact eqWhen_refl ⟨room, by simp [guardsWithin]⟩ _
  | .text chars span later =>
    cases arePieces with
    | cons isPiece arePieces =>
      have rest := body_eqWhen limit later arePieces
        (p.modifyBody (appendText chars span)) (by rw [modifyBody_blocks_length]; exact room)
      rw [modifyBody_blocks_length, ← add_text, add_add] at rest
      have whole := step_eqWhen isPiece (.text chars span p) fun _ => by
        rw [← add_text]
        exact rest
      rw [nesting_text, guards_text]
      exact eqWhen_of_iff (by simp [Piece.Keeps]) whole
  | .output o span later =>
    cases arePieces with
    | cons isPiece arePieces =>
      have rest := body_eqWhen limit later arePieces
        (p.modifyBody (.output o span :: ·)) (by rw [modifyBody_blocks_length]; exact room)
      have whole := step_eqWhen isPiece (.output o span p) fun _ => rest
      rw [modifyBody_blocks_length, ← add_single p rfl, add_add, cons_joined rfl,
        nil_joined] at whole
      refine eqWhen_of_iff ?_ whole
      simp [Piece.Keeps, Item.directive, Item.guard?, nestingWithin, guardsWithin, Node.nesting,
        Node.guards]
  | @IsBody.conditional _ _ _ ns ms arms closed guard opened first others later =>
    cases arePieces with
    | cons isPiece arePieces =>
      obtain ⟨ts, us, rfl, areFirst, arePieces⟩ := forall₂_append arePieces
      obtain ⟨us, vs, rfl, areOthers, areLater⟩ := forall₂_append arePieces
      obtain ⟨nodes, blocks⟩ := p
      refine eqWhen_of_iff keeps_conditional
        (step_eqWhen isPiece (.openIf guard opened nodes blocks) fun kept => ?_)
      have deeper : blocks.length + 1 ≤ limit := kept.1 rfl
      have begun := body_eqWhen limit first areFirst
        ⟨nodes, ⟨opened, [], some guard, []⟩ :: blocks⟩ deeper
      rw [add_arm] at begun
      refine tokens_eqWhen begun fun _ => ?_
      refine tokens_eqWhen
        (arms_eqWhen limit others areOthers opened [] guard _ nodes blocks deeper) fun _ => ?_
      have rest := body_eqWhen limit later areLater (Progress.add ⟨nodes, blocks⟩
        [.conditional (.guarded guard ns arms) (opened.upTo closed.stop)])
        (by rw [Progress.add, modifyBody_blocks_length]; exact room)
      rw [add_add, cons_joined rfl, nil_joined, Progress.add, modifyBody_blocks_length] at rest
      rw [List.reverse_reverse]
      exact rest

theorem arms_eqWhen (limit : Nat) {ts : List (Token × Span)} {ps : List (Piece × Span)}
    {arms : Arms} {closed : Span} (others : AreArms ps arms closed)
    (arePieces : List.Forall₂ IsPiece ts ps) (opened : Span)
    (finished : List (Condition × List Node)) (guard : Condition) (body nodes : List Node)
    (blocks : List OpenBlock) (room : blocks.length + 1 ≤ limit) :
    EqWhen (Keeps limit (blocks.length + 1) arms.nesting arms.guards)
      (ts.foldlM (Progress.token limit) ⟨nodes, ⟨opened, finished, some guard, body⟩ :: blocks⟩)
      (.ok (Progress.add ⟨nodes, blocks⟩
        [.conditional (armsFrom finished (.guarded guard body.reverse arms))
          (opened.upTo closed.stop)])) := by
  match others with
  | @AreArms.elseIf _ _ ns arms closed later span first others =>
    cases arePieces with
    | cons isPiece arePieces =>
      obtain ⟨ts, us, rfl, areFirst, areOthers⟩ := forall₂_append arePieces
      refine eqWhen_of_iff keeps_elseIf
        (step_eqWhen isPiece (.elseIf later span opened finished guard body nodes blocks)
          fun _ => ?_)
      have begun := body_eqWhen limit first areFirst
        ⟨nodes, ⟨opened, (guard, body.reverse) :: finished, some later, []⟩ :: blocks⟩ room
      rw [add_arm] at begun
      refine tokens_eqWhen begun fun _ => ?_
      have rest := arms_eqWhen limit others areOthers opened
        ((guard, body.reverse) :: finished) later ns.reverse nodes blocks room
      rw [List.reverse_reverse] at rest
      exact rest
  | @AreArms.otherwise _ ns span closed last =>
    cases arePieces with
    | cons isPiece arePieces =>
      obtain ⟨ts, us, rfl, areLast, isClose⟩ := forall₂_append arePieces
      have begun := body_eqWhen limit last areLast
        ⟨nodes, ⟨opened, (guard, body.reverse) :: finished, none, []⟩ :: blocks⟩ room
      rw [add_arm] at begun
      cases isClose with
      | @cons t _ _ _ isClose none =>
        cases none
        have ended := eqWhen_refl trivial ([t].foldlM (Progress.token limit)
          ⟨nodes, ⟨opened, (guard, body.reverse) :: finished, none, ns.reverse⟩ :: blocks⟩)
        have whole := step_eqWhen isPiece
          (.otherwise span opened finished guard body nodes blocks) fun _ =>
            tokens_eqWhen begun fun _ => ended
        rw [close_run isClose] at whole
        simp only [OpenBlock.arms, List.reverse_reverse] at whole
        refine eqWhen_of_iff ?_ whole
        simp [Piece.Keeps, Item.directive, Item.guard?, Arms.nesting, Arms.guards]
  | .done closed =>
    cases arePieces with
    | cons isClose none =>
      cases none
      rw [close_run isClose ⟨opened, finished, some guard, body⟩ nodes blocks]
      exact eqWhen_refl ⟨room, by simp [Arms.guards]⟩ _

end

theorem parse_sound {limit : Nat} {template : String} {ns : List Node}
    (parsed : parse limit template = .ok ns) :
    ∃ pieces, List.Forall₂ IsPiece (Token.ofTemplate template) pieces ∧ IsBody pieces ns := by
  obtain ⟨p, run, finished⟩ := bind_eq_ok.1 parsed
  obtain ⟨pieces, arePieces, run⟩ := tokens_sound run
  exact ⟨pieces, arePieces, body_of_run run finished⟩

theorem parse_eqWhen (limit : Nat) {template : String} {pieces : List (Piece × Span)}
    {ns : List Node} (arePieces : List.Forall₂ IsPiece (Token.ofTemplate template) pieces)
    (body : IsBody pieces ns) :
    EqWhen (Keeps limit 0 (nestingWithin ns) (guardsWithin ns)) (parse limit template)
      (.ok ns) := by
  have run := body_eqWhen limit body arePieces .start (Nat.zero_le limit)
  have finished : (Progress.start.add ns).finish = .ok ns := by
    simp [Progress.start, Progress.add, Progress.modifyBody, Progress.finish]
  have whole := eqWhen_bind run Progress.finish
  change EqWhen _ _ (Progress.start.add ns).finish at whole
  rwa [finished] at whole

theorem guards_of_nesting {ns : List Node} (flat : nestingWithin ns = 0) :
    guardsWithin ns = [] := by
  induction ns with
  | nil => rfl
  | cons n ns ih =>
    rw [nestingWithin] at flat
    have later := ih (by omega)
    cases n with
    | literal | output => rwa [guardsWithin]
    | conditional arms span =>
      rw [Node.nesting] at flat
      omega

theorem foldr_max_lt (ms : List Nat) {limit : Nat} (some : 0 < limit) :
    ms.foldr max 0 < limit ↔ ∀ m ∈ ms, m < limit := by
  induction ms with
  | nil => simpa using some
  | cons m ms ih => rw [List.foldr_cons, Nat.max_lt, ih, List.forall_mem_cons]

theorem leastDepth_le_iff {ns : List Node} {limit : Nat} :
    leastDepth ns ≤ limit ↔ Keeps limit 0 (nestingWithin ns) (guardsWithin ns) := by
  unfold leastDepth
  split
  · rename_i flat
    rw [flat, guards_of_nesting flat]
    exact ⟨fun _ => ⟨Nat.zero_le limit, by simp⟩, fun _ => Nat.zero_le limit⟩
  · rename_i nested
    constructor
    · intro least
      have some : 0 < limit := by omega
      have runs := (foldr_max_lt ((guardsWithin ns).map Condition.negations) some).1 (by omega)
      refine ⟨by omega, fun c member => ?_⟩
      exact runs _ (List.mem_map_of_mem member)
    · rintro ⟨blocks, guards⟩
      have some : 0 < limit := by omega
      have runs := (foldr_max_lt ((guardsWithin ns).map Condition.negations) some).2
        (by simpa using guards)
      omega

/-- A template that can be read with some limit is read with just the limits from its own depth on,
and always as the same nodes; a lower limit refuses it for being too deep. -/
theorem parse_depth_threshold {limit : Nat} {template : String} {ns : List Node}
    (parsed : parse limit template = .ok ns) (other : Nat) :
    ((∃ ms, parse other template = .ok ms) ↔ leastDepth ns ≤ other) ∧
      (leastDepth ns ≤ other → parse other template = .ok ns) ∧
      (other < leastDepth ns →
        ∃ fault, parse other template = .error fault ∧ fault.kind = .tooDeep) := by
  obtain ⟨pieces, arePieces, body⟩ := parse_sound parsed
  have read := parse_eqWhen other arePieces body
  rw [← propext leastDepth_le_iff] at read
  refine ⟨⟨?_, fun enough => ⟨ns, read.same enough⟩⟩, read.same, fun less => ?_⟩
  · rintro ⟨ms, found⟩
    by_contra less
    obtain ⟨fault, refused, _⟩ := read.tooDeep less
    rw [found] at refused
    cases refused
  · exact read.tooDeep (Nat.not_le.2 less)

theorem parsed_of_map {α : Type} {limit : Nat} {template : String} {f : List Node → α} {y : α}
    (found : (parse limit template).toOption.map f = some y) :
    ∃ ns, parse limit template = .ok ns ∧ f ns = y := by
  obtain ⟨ns, parsed, value⟩ := Option.map_eq_some_iff.1 found
  cases read : parse limit template with
  | error fault =>
    rw [read] at parsed
    cases parsed
  | ok ms =>
    rw [read] at parsed
    exact ⟨ns, congrArg Except.ok (Option.some.inj parsed), value⟩

/-- Two words `not` in a condition need more than the two conditionals around each other do. -/
theorem parse_depth_not_not :
    let template := "\x7bif a and not not b\x7d\x7bif c\x7dx\x7b/if\x7d\x7b/if\x7d"
    ∃ ns, parse 3 template = .ok ns ∧ nestingWithin ns = 2 ∧ leastDepth ns = 3 ∧
      parse 64 template = .ok ns ∧
        ∃ fault, parse 2 template = .error fault ∧ fault.kind = .tooDeep := by
  intro template
  have depths : ((parse 3 template).toOption.map fun ns => (nestingWithin ns, leastDepth ns)) =
      some (2, 3) := by decide +kernel
  obtain ⟨ns, parsed, counted⟩ := parsed_of_map depths
  obtain ⟨nested, least⟩ := Prod.mk.inj counted
  have more := (parse_depth_threshold parsed 64).2.1
  have less := (parse_depth_threshold parsed 2).2.2
  rw [least] at more less
  exact ⟨ns, parsed, nested, least, more (by decide), less (by decide)⟩

end TitleTemplate
