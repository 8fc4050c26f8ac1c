import TitleTemplate.Template.Expression
import TitleTemplate.Template.Token

/-! Reading whole templates. Expressions that begin with `if`, `elif`, `else` or `/if` open, divide
and close conditionals; all others are outputs. Reading goes through the tokens once and keeps the
conditionals that are still open, innermost first. -/
namespace TitleTemplate

structure Limits where
  /-- How deep conditionals may nest, and conditions within one. -/
  depth : Nat
  /-- How many bytes a rendering may have. -/
  output : Nat
  deriving DecidableEq

def Limits.default : Limits := ⟨64, 65536⟩

inductive Directive where
  | openIf
  | elseIf
  | otherwise
  | closeIf
  | output
  deriving DecidableEq

def Directive.of (inner : List Char) : Directive :=
  let trimmed := skipBlanks inner
  let keyword := String.ofList (trimmed.takeWhile (!isBlank ·))
  let alone := (trimmed.dropWhile (!isBlank ·)).all isBlank
  if keyword = "if" then .openIf
  else if keyword = "elif" then .elseIf
  else if keyword = "else" ∧ alone then .otherwise
  else if keyword = "/if" ∧ alone then .closeIf
  else .output

/-- A conditional that is not closed yet. The arm that is being read has no guard after `else`. -/
structure OpenBlock where
  opened : Span
  /-- The arms before the one that is being read, latest first. -/
  finished : List (Condition × List Node)
  guard : Option Condition
  /-- The nodes of the arm that is being read, latest first. -/
  body : List Node

def OpenBlock.arms (b : OpenBlock) : Arms :=
  let last : Arms := match b.guard with
    | some guard => .guarded guard b.body.reverse .done
    | none => .otherwise b.body.reverse
  b.finished.foldl (fun rest arm => .guarded arm.1 arm.2 rest) last

structure Progress where
  /-- The nodes outside of all open conditionals, latest first. -/
  nodes : List Node
  /-- The open conditionals, innermost first. -/
  blocks : List OpenBlock

/-- Text after text becomes one literal. -/
def appendText (text : List Char) (span : Span) : List Node → List Node
  | .literal before first :: rest =>
    .literal (before ++ String.ofList text) (first.upTo span.stop) :: rest
  | nodes => .literal (String.ofList text) span :: nodes

namespace Progress

def start : Progress := ⟨[], []⟩

def modifyBody (p : Progress) (f : List Node → List Node) : Progress :=
  match p.blocks with
  | [] => { p with nodes := f p.nodes }
  | b :: blocks => { p with blocks := { b with body := f b.body } :: blocks }

def expression (limit : Nat) (inner : List Char) (span : Span) (p : Progress) :
    Except Fault Progress :=
  let lexed := Lexed.ofExpression span.start inner
  let reading : Reading :=
    ⟨span, lexed.fault.map fun (fault, span) => ⟨.lexical fault, span⟩, limit⟩
  if inner.all isBlank then .error ⟨.emptyExpression, span⟩
  else
    match Directive.of inner with
    | .output => do
      let operand ← reading.output lexed.lexemes
      return p.modifyBody (.output operand span :: ·)
    | .openIf =>
      if limit ≤ p.blocks.length then .error ⟨.blocksTooDeep limit, span⟩
      else do
        let guard ← reading.guarded "if" lexed.lexemes
        return { p with blocks := ⟨span, [], some guard, []⟩ :: p.blocks }
    | .elseIf => do
      let guard ← reading.guarded "elif" lexed.lexemes
      match p.blocks with
      | [] => .error ⟨.elifOutside, span⟩
      | b :: blocks =>
        match b.guard with
        | none => .error ⟨.elifAfterElse, span⟩
        | some before =>
          let finished := (before, b.body.reverse) :: b.finished
          return { p with blocks := ⟨b.opened, finished, some guard, []⟩ :: blocks }
    | .otherwise =>
      match p.blocks with
      | [] => .error ⟨.elseOutside, span⟩
      | b :: blocks =>
        match b.guard with
        | none => .error ⟨.elseAfterElse, span⟩
        | some before =>
          let finished := (before, b.body.reverse) :: b.finished
          .ok { p with blocks := ⟨b.opened, finished, none, []⟩ :: blocks }
    | .closeIf =>
      match p.blocks with
      | [] => .error ⟨.endOutside, span⟩
      | b :: blocks =>
        let node : Node := .conditional b.arms (b.opened.upTo span.stop)
        .ok ({ p with blocks := blocks }.modifyBody (node :: ·))

def token (limit : Nat) (p : Progress) (t : Token × Span) : Except Fault Progress :=
  match t.1 with
  | .text chars => .ok (p.modifyBody (appendText chars t.2))
  | .brace => .ok (p.modifyBody (appendText ['\x7b'] t.2))
  | .expression inner => p.expression limit inner t.2

def finish (p : Progress) : Except Fault (List Node) :=
  match p.blocks with
  | [] => .ok p.nodes.reverse
  | b :: _ => .error ⟨.unclosed, b.opened⟩

end Progress

/-- Reads a template. The limit bounds how deep conditionals may nest, and conditions within one. -/
def parse (limit : Nat) (template : String) : Except Fault (List Node) := do
  (← (Token.ofTemplate template).foldlM (Progress.token limit) .start).finish

end TitleTemplate
