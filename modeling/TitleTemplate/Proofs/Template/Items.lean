import Mathlib.Data.List.TakeWhile
import TitleTemplate.Proofs.Template.Relocation

/-!
An expression is taken in by three steps that have nothing to do with each other: the depth is
checked, the expression is read for what it asks for, and that is put in its place. Only the second
step looks at the text, and only the first and the last at what has been read before it.
-/
namespace TitleTemplate

/-- What an expression asks for. -/
inductive Item where
  | output (operand : Operand)
  | openIf (guard : Condition)
  | elseIf (guard : Condition)
  | otherwise
  | closeIf

def Item.relocate (f : Position → Position) : Item → Item
  | .output operand => .output operand
  | .openIf guard => .openIf (guard.relocate f)
  | .elseIf guard => .elseIf (guard.relocate f)
  | .otherwise => .otherwise
  | .closeIf => .closeIf

def Lexed.reading (limit : Nat) (span : Span) (l : Lexed) : Reading :=
  ⟨span, l.fault.map fun e => ⟨.lexical e.1, e.2⟩, limit⟩

def Item.read (limit : Nat) (inner : List Char) (lexed : Lexed) (span : Span) :
    Except Fault Item :=
  if inner.all isBlank then .error ⟨.emptyExpression, span⟩
  else
    match Directive.of inner with
    | .output => do return .output (← (lexed.reading limit span).output lexed.lexemes)
    | .openIf => do return .openIf (← (lexed.reading limit span).guarded "if" lexed.lexemes)
    | .elseIf => do return .elseIf (← (lexed.reading limit span).guarded "elif" lexed.lexemes)
    | .otherwise => .ok .otherwise
    | .closeIf => .ok .closeIf

namespace Progress

/-- A conditional may begin only while fewer are open than the limit allows. -/
def checkDepth (limit : Nat) (inner : List Char) (span : Span) (p : Progress) : Except Fault Unit :=
  if Directive.of inner = .openIf ∧ limit ≤ p.blocks.length then
    .error ⟨.blocksTooDeep limit, span⟩
  else .ok ()

def place (item : Item) (span : Span) (p : Progress) : Except Fault Progress :=
  match item, p.blocks with
  | .output operand, _ => .ok (p.modifyBody (.output operand span :: ·))
  | .openIf guard, blocks => .ok { p with blocks := ⟨span, [], some guard, []⟩ :: blocks }
  | .elseIf _, [] => .error ⟨.elifOutside, span⟩
  | .elseIf guard, b :: blocks =>
    match b.guard with
    | none => .error ⟨.elifAfterElse, span⟩
    | some before =>
      let finished := (before, b.body.reverse) :: b.finished
      .ok { p with blocks := ⟨b.opened, finished, some guard, []⟩ :: blocks }
  | .otherwise, [] => .error ⟨.elseOutside, span⟩
  | .otherwise, b :: blocks =>
    match b.guard with
    | none => .error ⟨.elseAfterElse, span⟩
    | some before =>
      let finished := (before, b.body.reverse) :: b.finished
      .ok { p with blocks := ⟨b.opened, finished, none, []⟩ :: blocks }
  | .closeIf, [] => .error ⟨.endOutside, span⟩
  | .closeIf, b :: blocks =>
    let node : Node := .conditional b.arms (b.opened.upTo span.stop)
    .ok ({ p with blocks := blocks }.modifyBody (node :: ·))

def takeIn (limit : Nat) (inner : List Char) (lexed : Lexed) (span : Span) (p : Progress) :
    Except Fault Progress := do
  p.checkDepth limit inner span
  let item ← Item.read limit inner lexed span
  p.place item span

end Progress

theorem directive_of_blank {inner : List Char} (blank : inner.all isBlank = true) :
    Directive.of inner = .output := by
  have skipped : skipBlanks inner = [] := by
    rw [skipBlanks, List.dropWhile_eq_nil_iff]
    simpa using blank
  simp only [Directive.of, skipped]
  decide

theorem expression_eq_takeIn (limit : Nat) (inner : List Char) (span : Span) (p : Progress) :
    p.expression limit inner span =
      p.takeIn limit inner (Lexed.ofExpression span.start inner) span := by
  simp only [Progress.expression, Progress.takeIn, Progress.checkDepth, Item.read]
  by_cases blank : inner.all isBlank = true
  · simp [blank, directive_of_blank blank, bind, Except.bind]
  · simp only [blank, Bool.false_eq_true, ↓reduceIte]
    cases kind : Directive.of inner with
    | output =>
      simp only [reduceCtorEq, false_and, ↓reduceIte, bind_assoc]
      rfl
    | openIf =>
      by_cases deep : limit ≤ p.blocks.length
      · simp [deep, bind, Except.bind]
      · simp only [deep, and_false, ↓reduceIte, bind_assoc]
        rfl
    | elseIf =>
      simp only [reduceCtorEq, false_and, ↓reduceIte, bind_assoc]
      refine congrArg _ (funext fun guard => ?_)
      simp only [Progress.place, pure_bind]
      cases p.blocks with
      | nil => rfl
      | cons b blocks =>
        dsimp only
        cases b.guard <;> rfl
    | otherwise =>
      simp only [reduceCtorEq, false_and, ↓reduceIte, Progress.place]
      cases p.blocks with
      | nil => rfl
      | cons b blocks =>
        obtain ⟨opened, finished, guard, body⟩ := b
        cases guard <;> rfl
    | closeIf =>
      simp only [reduceCtorEq, false_and, ↓reduceIte, Progress.place]
      cases p.blocks <;> rfl

def OpenBlock.relocate (f : Position → Position) (b : OpenBlock) : OpenBlock :=
  ⟨b.opened.relocate f, b.finished.map fun arm => (arm.1.relocate f, relocateNodes f arm.2),
    b.guard.map (Condition.relocate f), relocateNodes f b.body⟩

def Progress.relocate (f : Position → Position) (p : Progress) : Progress :=
  ⟨relocateNodes f p.nodes, p.blocks.map (OpenBlock.relocate f)⟩

theorem upTo_relocate (f : Position → Position) (s : Span) (stop : Position) :
    (s.upTo stop).relocate f = (s.relocate f).upTo (f stop) := rfl

theorem relocateNodes_reverse (f : Position → Position) (ns : List Node) :
    relocateNodes f ns.reverse = (relocateNodes f ns).reverse := by
  rw [relocateNodes_eq_map, relocateNodes_eq_map, List.map_reverse]

theorem foldl_arms_relocate (f : Position → Position) (finished : List (Condition × List Node))
    (last : Arms) :
    (finished.foldl (fun rest arm => Arms.guarded arm.1 arm.2 rest) last).relocate f =
      (finished.map fun arm => (arm.1.relocate f, relocateNodes f arm.2)).foldl
        (fun rest arm => Arms.guarded arm.1 arm.2 rest) (last.relocate f) := by
  induction finished generalizing last with
  | nil => rfl
  | cons arm finished ih => exact ih _

theorem arms_relocate (f : Position → Position) (b : OpenBlock) :
    b.arms.relocate f = (b.relocate f).arms := by
  obtain ⟨opened, finished, guard, body⟩ := b
  cases guard <;>
    simp only [OpenBlock.arms, foldl_arms_relocate, OpenBlock.relocate, Option.map_some,
      Option.map_none, Arms.relocate, relocateNodes_reverse]

theorem modifyBody_relocate (f : Position → Position) {p : Progress}
    {change change' : List Node → List Node}
    (same : ∀ ns, relocateNodes f (change ns) = change' (relocateNodes f ns)) :
    (p.modifyBody change).relocate f = (p.relocate f).modifyBody change' := by
  obtain ⟨nodes, blocks⟩ := p
  cases blocks <;>
    simp only [Progress.modifyBody, Progress.relocate, List.map_nil, List.map_cons,
      OpenBlock.relocate, same]

theorem appendText_relocate (f : Position → Position) (text : List Char) (span : Span)
    (ns : List Node) :
    relocateNodes f (appendText text span ns) =
      appendText text (span.relocate f) (relocateNodes f ns) := by
  cases ns with
  | nil => rfl
  | cons n ns => cases n <;> rfl

theorem checkDepth_relocate (f : Position → Position) (limit : Nat) (inner : List Char)
    (span : Span) (p : Progress) :
    relocated f id (p.checkDepth limit inner span) =
      (p.relocate f).checkDepth limit inner (span.relocate f) := by
  simp only [Progress.checkDepth, Progress.relocate, List.length_map]
  split <;> rfl

theorem reading_relocate (f : Position → Position) (limit : Nat) (span : Span) (l : Lexed) :
    (l.reading limit span).relocate f = (l.relocate f).reading limit (span.relocate f) := by
  cases fault : l.fault <;>
    simp [Lexed.reading, Reading.relocate, Lexed.relocate, fault, Fault.relocate]

theorem read_relocate (f : Position → Position) (limit : Nat) (inner : List Char) (lexed : Lexed)
    (span : Span) :
    relocated f (Item.relocate f) (Item.read limit inner lexed span) =
      Item.read limit inner (lexed.relocate f) (span.relocate f) := by
  have sameReading := reading_relocate f limit span lexed
  simp only [Item.read]
  split
  · rfl
  · cases Directive.of inner with
    | output =>
      refine relocated_bind (g := id) ?_ fun operand _ => rfl
      rw [Reading.output_relocate, sameReading]
      rfl
    | openIf =>
      refine relocated_bind ?_ fun guard _ => rfl
      rw [Reading.guarded_relocate, sameReading]
      rfl
    | elseIf =>
      refine relocated_bind ?_ fun guard _ => rfl
      rw [Reading.guarded_relocate, sameReading]
      rfl
    | otherwise => rfl
    | closeIf => rfl

theorem place_relocate (f : Position → Position) (item : Item) (span : Span) (p : Progress) :
    relocated f (Progress.relocate f) (p.place item span) =
      (p.relocate f).place (item.relocate f) (span.relocate f) := by
  obtain ⟨nodes, blocks⟩ := p
  cases item with
  | output operand =>
    refine congrArg Except.ok (modifyBody_relocate f fun ns => ?_)
    rfl
  | openIf guard => rfl
  | closeIf =>
    cases blocks with
    | nil => rfl
    | cons b blocks =>
      refine congrArg Except.ok (modifyBody_relocate f fun ns => ?_)
      rw [relocateNodes, Node.relocate, arms_relocate, upTo_relocate]
      rfl
  | elseIf guard =>
    cases blocks with
    | nil => rfl
    | cons b blocks =>
      obtain ⟨opened, finished, before, body⟩ := b
      cases before with
      | none => rfl
      | some before =>
        simp only [Progress.place, relocated_ok, Progress.relocate, List.map_cons,
          OpenBlock.relocate, Option.map_some, Item.relocate, relocateNodes_reverse]
        rfl
  | otherwise =>
    cases blocks with
    | nil => rfl
    | cons b blocks =>
      obtain ⟨opened, finished, before, body⟩ := b
      cases before with
      | none => rfl
      | some before =>
        simp only [Progress.place, relocated_ok, Progress.relocate, List.map_cons,
          OpenBlock.relocate, Option.map_some, Option.map_none, Item.relocate,
          relocateNodes_reverse]
        rfl

theorem takeIn_relocate (f : Position → Position) (limit : Nat) (inner : List Char)
    (lexed : Lexed) (span : Span) (p : Progress) :
    relocated f (Progress.relocate f) (p.takeIn limit inner lexed span) =
      (p.relocate f).takeIn limit inner (lexed.relocate f) (span.relocate f) := by
  refine relocated_bind (checkDepth_relocate f limit inner span p) fun _ _ => ?_
  exact relocated_bind (read_relocate f limit inner lexed span) fun item _ =>
    place_relocate f item span p

theorem token_relocate {f g : Position → Position} {limit : Nat} {p q : Progress} {s u : Span}
    (states : p.relocate f = q.relocate g) (spans : s.relocate f = u.relocate g)
    (aligned : Aligned f g s.start u.start) (t : Token) :
    relocated f (Progress.relocate f) (p.token limit (t, s)) =
      relocated g (Progress.relocate g) (q.token limit (t, u)) := by
  cases t with
  | text chars =>
    refine congrArg Except.ok ?_
    rw [modifyBody_relocate f (appendText_relocate f chars s),
      modifyBody_relocate g (appendText_relocate g chars u), states, spans]
  | brace =>
    refine congrArg Except.ok ?_
    rw [modifyBody_relocate f (appendText_relocate f _ s),
      modifyBody_relocate g (appendText_relocate g _ u), states, spans]
  | expression inner =>
    have lexed : (Lexed.ofExpression s.start inner).relocate f =
        (Lexed.ofExpression u.start inner).relocate g :=
      scan_relocate (aligned_after aligned ['\x7b']) inner
    simp only [Progress.token, expression_eq_takeIn]
    rw [takeIn_relocate, takeIn_relocate, states, spans, lexed]

end TitleTemplate
