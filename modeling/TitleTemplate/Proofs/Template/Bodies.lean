import TitleTemplate.Proofs.Template.Joining
import TitleTemplate.Proofs.Template.Pieces

/-!
The grammar of templates, over their pieces:

  body        := (text | output | conditional)*
  conditional := if body (elif body)* [else body] /if

A derivation is recursive, while templates are read in one run that keeps the conditionals that are
open. What has been read at some point is a derivation that lacks its end: bodies that are complete
so far, each inside an arm of a conditional that is still open.
-/
namespace TitleTemplate

mutual

/-- Pieces that are a body, and its nodes. -/
inductive IsBody : List (Piece × Span) → List Node → Prop
  | nil : IsBody [] []
  | text {ps : List (Piece × Span)} {ns : List Node} (chars : List Char) (span : Span)
      (later : IsBody ps ns) :
      IsBody ((.text chars, span) :: ps) (joined [.literal (String.ofList chars) span] ns)
  | output {ps : List (Piece × Span)} {ns : List Node} (o : Operand) (span : Span)
      (later : IsBody ps ns) : IsBody ((.item (.output o), span) :: ps) (.output o span :: ns)
  | conditional {body more ps : List (Piece × Span)} {ns ms : List Node} {arms : Arms}
      {closed : Span} (guard : Condition) (opened : Span) (first : IsBody body ns)
      (others : AreArms more arms closed) (later : IsBody ps ms) :
      IsBody ((.item (.openIf guard), opened) :: (body ++ (more ++ ps)))
        (.conditional (.guarded guard ns arms) (opened.upTo closed.stop) :: ms)

/-- Pieces that are what follows an arm of a conditional, to its end, which is the span. -/
inductive AreArms : List (Piece × Span) → Arms → Span → Prop
  | elseIf {body more : List (Piece × Span)} {ns : List Node} {arms : Arms} {closed : Span}
      (guard : Condition) (span : Span) (first : IsBody body ns)
      (others : AreArms more arms closed) :
      AreArms ((.item (.elseIf guard), span) :: (body ++ more)) (.guarded guard ns arms) closed
  | otherwise {body : List (Piece × Span)} {ns : List Node} (span closed : Span)
      (last : IsBody body ns) :
      AreArms ((.item .otherwise, span) :: (body ++ [(.item .closeIf, closed)])) (.otherwise ns)
        closed
  | done (closed : Span) : AreArms [(.item .closeIf, closed)] .done closed

end

theorem body_append {ps qs : List (Piece × Span)} {ns ms : List Node} (first : IsBody ps ns)
    (second : IsBody qs ms) : IsBody (ps ++ qs) (joined ns ms) := by
  match first with
  | .nil => exact second
  | .text chars span later =>
    rw [List.cons_append, joined_assoc]
    exact .text chars span (body_append later second)
  | .output o span later =>
    rw [List.cons_append, cons_joined rfl]
    exact .output o span (body_append later second)
  | .conditional guard opened body others later =>
    rw [List.cons_append, List.append_assoc, List.append_assoc, cons_joined rfl]
    exact .conditional guard opened body others (body_append later second)

/-- The arms of a conditional, after those that are finished, latest first. -/
def armsFrom (finished : List (Condition × List Node)) (last : Arms) : Arms :=
  finished.foldl (fun rest arm => .guarded arm.1 arm.2 rest) last

/-- What has been read of a conditional that is still open. -/
inductive Begun : List (Piece × Span) → OpenBlock → Prop
  | opened {body : List (Piece × Span)} {ns : List Node} (guard : Condition) (span : Span)
      (arm : IsBody body ns) :
      Begun ((.item (.openIf guard), span) :: body) ⟨span, [], some guard, ns.reverse⟩
  | elseIf {ps body : List (Piece × Span)} {ns last : List Node} {opened : Span}
      {finished : List (Condition × List Node)} {before : Condition} (guard : Condition)
      (span : Span) (begun : Begun ps ⟨opened, finished, some before, last⟩)
      (arm : IsBody body ns) :
      Begun (ps ++ (.item (.elseIf guard), span) :: body)
        ⟨opened, (before, last.reverse) :: finished, some guard, ns.reverse⟩
  | otherwise {ps body : List (Piece × Span)} {ns last : List Node} {opened : Span}
      {finished : List (Condition × List Node)} {before : Condition} (span : Span)
      (begun : Begun ps ⟨opened, finished, some before, last⟩) (arm : IsBody body ns) :
      Begun (ps ++ (.item .otherwise, span) :: body)
        ⟨opened, (before, last.reverse) :: finished, none, ns.reverse⟩

/-- What has been read of a template. -/
inductive Partly : List (Piece × Span) → Progress → Prop
  | outside {ps : List (Piece × Span)} {ns : List Node} (body : IsBody ps ns) :
      Partly ps ⟨ns.reverse, []⟩
  | inside {ps qs : List (Piece × Span)} {nodes : List Node} {blocks : List OpenBlock}
      {b : OpenBlock} (around : Partly ps ⟨nodes, blocks⟩) (begun : Begun qs b) :
      Partly (ps ++ qs) ⟨nodes, b :: blocks⟩

theorem begun_append {ps qs : List (Piece × Span)} {b : OpenBlock} {ms : List Node}
    (begun : Begun ps b) (more : IsBody qs ms) :
    Begun (ps ++ qs) { b with body := (joined b.body.reverse ms).reverse } := by
  cases begun with
  | opened guard span arm =>
    rw [List.cons_append, List.reverse_reverse]
    exact .opened guard span (body_append arm more)
  | elseIf guard span begun arm =>
    rw [List.append_assoc, List.cons_append, List.reverse_reverse]
    exact .elseIf guard span begun (body_append arm more)
  | otherwise span begun arm =>
    rw [List.append_assoc, List.cons_append, List.reverse_reverse]
    exact .otherwise span begun (body_append arm more)

theorem begun_arms {ps more : List (Piece × Span)} {opened closed : Span} {guard : Condition}
    {finished : List (Condition × List Node)} {body : List Node} {arms : Arms}
    (begun : Begun ps ⟨opened, finished, some guard, body⟩) (others : AreArms more arms closed) :
    IsBody (ps ++ more)
      [.conditional (armsFrom finished (.guarded guard body.reverse arms))
        (opened.upTo closed.stop)] := by
  -- The induction goes back to the opening expression; what comes after an arm grows on the way.
  generalize reading : (⟨opened, finished, some guard, body⟩ : OpenBlock) = b at begun
  induction begun generalizing more guard finished body arms with
  | opened first span arm =>
    obtain ⟨rfl, rfl, ⟨⟩, rfl⟩ := OpenBlock.mk.inj reading
    have whole := IsBody.conditional first opened arm others .nil
    rw [List.append_nil] at whole
    rw [List.reverse_reverse]
    exact whole
  | elseIf later span before arm ih =>
    obtain ⟨rfl, rfl, ⟨⟩, rfl⟩ := OpenBlock.mk.inj reading
    have whole := ih (.elseIf later span arm others) rfl
    rw [List.append_assoc, List.reverse_reverse]
    exact whole
  | otherwise span before arm ih =>
    obtain ⟨-, -, impossible, -⟩ := OpenBlock.mk.inj reading
    cases impossible

theorem begun_close {ps : List (Piece × Span)} {b : OpenBlock} (begun : Begun ps b)
    (closed : Span) :
    IsBody (ps ++ [(.item .closeIf, closed)])
      [.conditional b.arms (b.opened.upTo closed.stop)] := by
  cases begun with
  | opened guard span arm => exact begun_arms (.opened guard span arm) (.done closed)
  | elseIf guard span begun arm => exact begun_arms (.elseIf guard span begun arm) (.done closed)
  | @otherwise ps body ns last opened finished before span begun arm =>
    -- The arm without a guard has no place among those to come: it is closed from the one before.
    have whole := begun_arms begun (.otherwise span closed arm)
    rw [List.append_assoc, List.cons_append]
    simp only [OpenBlock.arms, List.reverse_reverse, List.foldl_cons]
    exact whole

theorem partly_add {ps qs : List (Piece × Span)} {p : Progress} {ms : List Node}
    (partly : Partly ps p) (more : IsBody qs ms) : Partly (ps ++ qs) (p.add ms) := by
  cases partly with
  | outside body =>
    have whole := Partly.outside (body_append body more)
    simpa only [Progress.add, Progress.modifyBody, List.reverse_reverse] using whole
  | inside around begun =>
    rw [List.append_assoc]
    exact .inside around (begun_append begun more)

/-- What has been read stays a derivation with every piece that is taken in. -/
theorem partly_step {ps : List (Piece × Span)} {p q : Progress} {piece : Piece × Span}
    (partly : Partly ps p) (takes : Takes piece p q) : Partly (ps ++ [piece]) q := by
  cases takes with
  | text chars span p =>
    have single := IsBody.text chars span .nil
    rw [joined_nil] at single
    rw [← add_text]
    exact partly_add partly single
  | output o span p =>
    rw [← add_single p rfl]
    exact partly_add partly (.output o span .nil)
  | openIf guard span nodes blocks => exact .inside partly (.opened guard span .nil)
  | elseIf guard span opened finished before body nodes blocks =>
    cases partly with
    | inside around begun =>
      rw [List.append_assoc]
      exact .inside around (.elseIf guard span begun .nil)
  | otherwise span opened finished before body nodes blocks =>
    cases partly with
    | inside around begun =>
      rw [List.append_assoc]
      exact .inside around (.otherwise span begun .nil)
  | closeIf span b nodes blocks =>
    cases partly with
    | inside around begun =>
      -- The conditional is whole now, and a node of the arm around it.
      rw [List.append_assoc, ← add_single _ rfl]
      exact partly_add around (begun_close begun span)

theorem partly_run {ps qs : List (Piece × Span)} {p q : Progress} (partly : Partly ps p)
    (run : qs.foldlM Progress.takePiece p = .ok q) : Partly (ps ++ qs) q := by
  induction qs generalizing ps p with
  | nil =>
    obtain rfl := Except.ok.inj run
    rw [List.append_nil]
    exact partly
  | cons piece qs ih =>
    rw [List.foldlM_cons] at run
    obtain ⟨next, taken, run⟩ := bind_eq_ok.1 run
    have whole := ih (partly_step partly (takes_iff.1 taken)) run
    rwa [List.append_assoc] at whole

theorem body_of_run {ps : List (Piece × Span)} {p : Progress} {ns : List Node}
    (run : ps.foldlM Progress.takePiece .start = .ok p) (finished : p.finish = .ok ns) :
    IsBody ps ns := by
  have partly := partly_run (.outside .nil) run
  cases partly with
  | outside body =>
    obtain rfl := Except.ok.inj finished
    rw [List.reverse_reverse]
    exact body
  | inside => cases finished

theorem run_next {piece : Piece × Span} {p q : Progress} (takes : Takes piece p q)
    (ps : List (Piece × Span)) :
    (piece :: ps).foldlM Progress.takePiece p = ps.foldlM Progress.takePiece q := by
  rw [List.foldlM_cons, takes_iff.2 takes]
  rfl

theorem run_append {ps : List (Piece × Span)} {p q : Progress}
    (first : ps.foldlM Progress.takePiece p = .ok q) (qs : List (Piece × Span)) :
    (ps ++ qs).foldlM Progress.takePiece p = qs.foldlM Progress.takePiece q := by
  rw [List.foldlM_append, first]
  rfl

theorem add_arm (opened : Span) (finished : List (Condition × List Node)) (guard : Option Condition)
    (nodes ns : List Node) (blocks : List OpenBlock) :
    Progress.add ⟨nodes, ⟨opened, finished, guard, []⟩ :: blocks⟩ ns =
      ⟨nodes, ⟨opened, finished, guard, ns.reverse⟩ :: blocks⟩ := rfl

mutual

theorem body_run {ps : List (Piece × Span)} {ns : List Node} (body : IsBody ps ns)
    (p : Progress) : ps.foldlM Progress.takePiece p = .ok (p.add ns) := by
  match body with
  | .nil =>
    rw [add_nil]
    rfl
  | .text chars span later =>
    rw [run_next (.text chars span p), ← add_text, body_run later, add_add]
  | .output o span later =>
    rw [run_next (.output o span p), ← add_single p rfl, body_run later, add_add, cons_joined rfl,
      nil_joined]
  | .conditional guard opened first others later =>
    obtain ⟨nodes, blocks⟩ := p
    rw [run_next (.openIf guard opened nodes blocks), run_append (body_run first _), add_arm,
      run_append (arms_run others opened [] guard _ nodes blocks), body_run later, add_add,
      cons_joined rfl, nil_joined, List.reverse_reverse]
    rfl

theorem arms_run {ps : List (Piece × Span)} {arms : Arms} {closed : Span}
    (others : AreArms ps arms closed) (opened : Span) (finished : List (Condition × List Node))
    (guard : Condition) (body nodes : List Node) (blocks : List OpenBlock) :
    ps.foldlM Progress.takePiece ⟨nodes, ⟨opened, finished, some guard, body⟩ :: blocks⟩ =
      .ok (Progress.add ⟨nodes, blocks⟩
        [.conditional (armsFrom finished (.guarded guard body.reverse arms))
          (opened.upTo closed.stop)]) := by
  match others with
  | .elseIf later span first others =>
    rw [run_next (.elseIf later span opened finished guard body nodes blocks),
      run_append (body_run first _), add_arm, arms_run others opened _ later,
      List.reverse_reverse]
    rfl
  | .otherwise span closed last =>
    rw [run_next (.otherwise span opened finished guard body nodes blocks),
      run_append (body_run last _), add_arm, run_next (.closeIf closed _ nodes blocks),
      ← add_single _ rfl]
    simp only [OpenBlock.arms, List.reverse_reverse]
    rfl
  | .done closed =>
    rw [run_next (.closeIf closed _ nodes blocks), ← add_single _ rfl]
    rfl

end

theorem arms_end {ps : List (Piece × Span)} {arms : Arms} {closed : Span}
    (others : AreArms ps arms closed) : ∃ before, ps = before ++ [(.item .closeIf, closed)] := by
  match others with
  | @AreArms.elseIf body more _ _ _ guard span first others =>
    obtain ⟨before, same⟩ := arms_end others
    exact ⟨(.item (.elseIf guard), span) :: (body ++ before), by simp [same]⟩
  | @AreArms.otherwise body _ span closed last =>
    exact ⟨(.item .otherwise, span) :: body, rfl⟩
  | .done closed => exact ⟨[], rfl⟩

theorem run_of_body {ps : List (Piece × Span)} {ns : List Node} (body : IsBody ps ns) :
    ∃ p, ps.foldlM Progress.takePiece .start = .ok p ∧ p.finish = .ok ns := by
  refine ⟨_, body_run body .start, ?_⟩
  simp [Progress.add, Progress.modifyBody, Progress.start, Progress.finish]

mutual

/-- Nodes without a text that is empty or that another text follows, at any depth. -/
def TidyNodes : List Node → Prop
  | [] => True
  | n :: ns =>
    n.Tidy ∧ (n.isLiteral = true → ∀ next ∈ ns.head?, next.isLiteral = false) ∧ TidyNodes ns

def Node.Tidy : Node → Prop
  | .literal text _ => text ≠ ""
  | .output _ _ => True
  | .conditional arms _ => arms.Tidy

def Arms.Tidy : Arms → Prop
  | .guarded _ body rest => TidyNodes body ∧ rest.Tidy
  | .otherwise body => TidyNodes body
  | .done => True

end

theorem tidy_text {text : String} (some : text ≠ "") (span : Span) {ns : List Node}
    (tidy : TidyNodes ns) : TidyNodes (joined [.literal text span] ns) := by
  cases ns with
  | nil => exact ⟨some, by simp, trivial⟩
  | cons n ns =>
    rcases literal_or_other n with ⟨later, after, rfl⟩ | other
    · obtain ⟨_, apart, rest⟩ := tidy
      refine ⟨?_, fun _ => apart rfl, rest⟩
      rw [Node.Tidy]
      simp [some]
    · rw [literal_joined other]
      refine ⟨some, ?_, tidy⟩
      intro _ next member
      obtain rfl := Option.some.inj member
      exact other

theorem tidy_other {n : Node} (other : n.isLiteral = false) (tidy : n.Tidy) {ns : List Node}
    (later : TidyNodes ns) : TidyNodes (n :: ns) := by
  refine ⟨tidy, ?_, later⟩
  intro literal
  rw [other] at literal
  cases literal

def NoEmptyText (ps : List (Piece × Span)) : Prop :=
  ∀ chars span, (Piece.text chars, span) ∈ ps → chars ≠ []

theorem noEmptyText_part {ps qs : List (Piece × Span)} (some : NoEmptyText ps)
    (part : ∀ piece ∈ qs, piece ∈ ps) : NoEmptyText qs := by
  intro chars span member
  exact some chars span (part _ member)

mutual

theorem body_tidy {ps : List (Piece × Span)} {ns : List Node} (body : IsBody ps ns)
    (some : NoEmptyText ps) : TidyNodes ns := by
  match body with
  | .nil => trivial
  | .text chars span later =>
    have first : chars ≠ [] := some chars span List.mem_cons_self
    have rest := body_tidy later (noEmptyText_part some (by simp +contextual))
    exact tidy_text (by simpa using first) span rest
  | .output o span later =>
    have rest := body_tidy later (noEmptyText_part some (by simp +contextual))
    exact tidy_other rfl (by rw [Node.Tidy]; trivial) rest
  | .conditional guard opened first others later =>
    have arm := body_tidy first (noEmptyText_part some (by simp +contextual))
    have arms := arms_tidy others (noEmptyText_part some (by simp +contextual))
    have rest := body_tidy later (noEmptyText_part some (by simp +contextual))
    refine tidy_other rfl ?_ rest
    rw [Node.Tidy, Arms.Tidy]
    exact ⟨arm, arms⟩

theorem arms_tidy {ps : List (Piece × Span)} {arms : Arms} {closed : Span}
    (others : AreArms ps arms closed) (some : NoEmptyText ps) : arms.Tidy := by
  match others with
  | .elseIf guard span first others =>
    have arm := body_tidy first (noEmptyText_part some (by simp +contextual))
    have arms := arms_tidy others (noEmptyText_part some (by simp +contextual))
    rw [Arms.Tidy]
    exact ⟨arm, arms⟩
  | .otherwise span closed last =>
    rw [Arms.Tidy]
    exact body_tidy last (noEmptyText_part some (by simp +contextual))
  | .done closed =>
    rw [Arms.Tidy]
    trivial

end

theorem noEmptyText_of_tokens {ts : List (Token × Span)} {pieces : List (Piece × Span)}
    (arePieces : List.Forall₂ IsPiece ts pieces) (some : ∀ t ∈ ts, t.1.source ≠ []) :
    NoEmptyText pieces := by
  induction arePieces with
  | nil =>
    intro chars span member
    cases member
  | @cons t piece ts pieces isPiece _ ih =>
    intro chars span member
    rcases List.mem_cons.1 member with rfl | later
    · cases isPiece with
      | text => exact some _ List.mem_cons_self
      | brace => simp
    · exact ih (fun u member => some u (List.mem_cons_of_mem t member)) chars span later

theorem mem_scan_of_template {template : String} {t : Token × Span}
    (member : t ∈ Token.ofTemplate template) : t.1 ∈ Token.scan template.toList := by
  rw [← Token.locate_tokens .first (Token.scan template.toList)]
  exact List.mem_map_of_mem member

theorem ofTemplate_length (template : String) :
    (Token.ofTemplate template).length ≤ template.length := by
  have counted := Token.scan_length template.toList
  rw [← Token.locate_tokens .first (Token.scan template.toList), List.length_map,
    String.length_toList] at counted
  exact counted

/-- A template is read just when its pieces are a body, and what is read is the tree of that body,
where no text is empty and no two texts meet. A limit of as many levels as there are characters is
enough. -/
theorem parse_iff_body (limit : Nat) (template : String) (fits : template.length ≤ limit) :
    (∀ ns, parse limit template = .ok ns ↔
        ∃ pieces, List.Forall₂ IsPiece (Token.ofTemplate template) pieces ∧ IsBody pieces ns) ∧
      ∀ ns, parse limit template = .ok ns → TidyNodes ns := by
  have short : ∀ t ∈ Token.ofTemplate template, ∀ inner, t.1 = .expression inner →
      inner.length ≤ limit := by
    intro t member inner same
    have inside := mem_scan_of_template member
    rw [same] at inside
    have counted := Token.inner_length inside
    rw [String.length_toList] at counted
    omega
  have shallow : Progress.start.blocks.length + (Token.ofTemplate template).length ≤ limit := by
    have counted := ofTemplate_length template
    rw [Progress.start, List.length_nil]
    omega
  have reads : ∀ ns, parse limit template = .ok ns ↔
      ∃ pieces, List.Forall₂ IsPiece (Token.ofTemplate template) pieces ∧ IsBody pieces ns := by
    intro ns
    rw [parse, bind_eq_ok]
    constructor
    · rintro ⟨p, run, finished⟩
      obtain ⟨pieces, arePieces, run⟩ := (tokens_iff short shallow).1 run
      exact ⟨pieces, arePieces, body_of_run run finished⟩
    · rintro ⟨pieces, arePieces, body⟩
      obtain ⟨p, run, finished⟩ := run_of_body body
      exact ⟨p, (tokens_iff short shallow).2 ⟨pieces, arePieces, run⟩, finished⟩
  refine ⟨reads, fun ns parsed => ?_⟩
  obtain ⟨pieces, arePieces, body⟩ := (reads ns).1 parsed
  exact body_tidy body (noEmptyText_of_tokens arePieces fun t member =>
    Token.source_ne_nil (mem_scan_of_template member))

/-- A part of the first line, where every character before it is one byte long. -/
def inLine (start stop : Nat) : Span := ⟨⟨1, start, start⟩, ⟨1, stop, stop⟩⟩

/-- The tree of `{if x}a{elif y}{{b{/if}`. Two texts of one arm become one literal. -/
theorem parse_elif_body :
    let template := "\x7bif x\x7da\x7belif y\x7d\x7b\x7bb\x7b/if\x7d"
    let name (w : String) (start stop : Nat) : Condition := .truthy ⟨[w], []⟩ (inLine start stop)
    template.length ≤ 23 ∧ parse 23 template = .ok [.conditional
      (.guarded (name "x" 4 5) [.literal "a" (inLine 6 7)]
        (.guarded (name "y" 13 14) [.literal "\x7bb" (inLine 15 18)] .done)) (inLine 0 23)] := by
  intro template name
  have fits : template.length ≤ 23 := by decide
  have tokens : Token.ofTemplate template =
      [(.expression "if x".toList, inLine 0 6), (.text ['a'], inLine 6 7),
        (.expression "elif y".toList, inLine 7 15), (.brace, inLine 15 17),
        (.text ['b'], inLine 17 18), (.expression "/if".toList, inLine 18 23)] := by
    decide +kernel
  have named : ∀ w start stop, splitAtChar '.' w.toList = [w.toList] → isSegment w.toList = true →
      w ≠ "not" → ∃ m, IsDisjunction [(.word w, inLine start stop)] (name w start stop) m := by
    intro w start stop single segment plain
    have path : IsPath w [w] := by
      rw [isPath_iff]
      simp [single, segment]
    refine ⟨_, .one (.one (.atom (.truthy (.mk (inLine start stop) path .none)) ?_))⟩
    rintro span rest same
    simp [plain] at same
  obtain ⟨m, condition⟩ := named "x" 4 5 (by decide) (by decide) (by decide)
  obtain ⟨n, other⟩ := named "y" 13 14 (by decide) (by decide) (by decide)
  have ifWord : (Lexed.ofExpression (inLine 0 6).start "if x".toList).lexemes =
      [(.word "if", inLine 1 3), (.word "x", inLine 4 5)] := by decide +kernel
  have elifWord : (Lexed.ofExpression (inLine 7 15).start "elif y".toList).lexemes =
      [(.word "elif", inLine 8 12), (.word "y", inLine 13 14)] := by decide +kernel
  have opens : Asks "if x".toList (Lexed.ofExpression (inLine 0 6).start "if x".toList)
      (.openIf (name "x" 4 5)) :=
    .openIf (directive_iff.1 (by decide)) (by decide +kernel) ifWord condition
  have divides : Asks "elif y".toList (Lexed.ofExpression (inLine 7 15).start "elif y".toList)
      (.elseIf (name "y" 13 14)) :=
    .elseIf (directive_iff.1 (by decide)) (by decide +kernel) elifWord other
  have closes : Asks "/if".toList (Lexed.ofExpression (inLine 18 23).start "/if".toList)
      .closeIf := .closeIf (directive_iff.1 (by decide))
  let pieces : List (Piece × Span) :=
    [(.item (.openIf (name "x" 4 5)), inLine 0 6), (.text ['a'], inLine 6 7),
      (.item (.elseIf (name "y" 13 14)), inLine 7 15), (.text ['\x7b'], inLine 15 17),
      (.text ['b'], inLine 17 18), (.item .closeIf, inLine 18 23)]
  have arePieces : List.Forall₂ IsPiece (Token.ofTemplate template) pieces := by
    rw [tokens]
    exact .cons (.expression _ opens) (.cons (.text _ _) (.cons (.expression _ divides)
      (.cons (.brace _) (.cons (.text _ _) (.cons (.expression _ closes) .nil)))))
  have body : IsBody pieces _ :=
    .conditional (name "x" 4 5) (inLine 0 6) (.text ['a'] (inLine 6 7) .nil)
      (.elseIf (name "y" 13 14) (inLine 7 15)
        (.text ['\x7b'] (inLine 15 17) (.text ['b'] (inLine 17 18) .nil)) (.done (inLine 18 23)))
      .nil
  exact ⟨fits, ((parse_iff_body 23 template fits).1 _).2 ⟨pieces, arePieces, body⟩⟩

end TitleTemplate
