import TitleTemplate.Dump.Tree
import TitleTemplate.Template.Fault
import TitleTemplate.Template.Token
import TitleTemplate.Template.Tree
import TitleTemplate.Value.Basic

/-! Values, tokens, trees and faults in dumps. -/
namespace TitleTemplate.Value

mutual

def dump : Value → Dump
  | .undefined => .atom "undefined"
  | .none => .atom "none"
  | .bool b => .atom (if b then "true" else "false")
  | .int n => .atom (toString n)
  | .float x => .atom (NumberLayout.dumped.text x)
  | .str s => .text s
  | .seq items => .list (dumpItems items)
  | .map entries => .map (dumpEntries entries)

def dumpItems : List Value → List Dump
  | [] => []
  | v :: vs => v.dump :: dumpItems vs

def dumpEntries : List (String × Value) → List (String × Dump)
  | [] => []
  | (k, v) :: es => (k, v.dump) :: dumpEntries es

end

end TitleTemplate.Value

namespace TitleTemplate

def Comparison.dumpName : Comparison → String
  | .eq => "Eq"
  | .ne => "Ne"
  | .gt => "Gt"
  | .gte => "Gte"
  | .lt => "Lt"
  | .lte => "Lte"
  | .contains => "Contains"

def Lexeme.dump : Lexeme → Dump
  | .word w => .call "Word" [.text w]
  | .text s escaped => .call (if escaped then "String" else "Str") [.text s]
  | .pipe => .atom "Pipe"
  | .parenOpen => .atom "ParenOpen"
  | .parenClose => .atom "ParenClose"
  | .comma => .atom "Comma"
  | .compare .contains => .atom "Tilde"
  | .compare op => .atom op.dumpName

def Token.dump : Token → Dump
  | .text chars => .call "TemplateData" [.text (String.ofList chars)]
  | .brace => .call "TemplateData" [.text "\x7b"]
  | .expression inner => .call "Expression" [.text (String.ofList inner)]

def Token.dumpLines (t : Token × Span) : List String × Option Fault :=
  let line := t.1.dump.compact ++ t.2.dumped
  match t.1 with
  | .expression inner =>
    let lexed := Lexed.ofExpression t.2.start inner
    let lines := lexed.lexemes.map fun l => "  " ++ l.1.dump.compact ++ l.2.dumped
    (line :: lines, lexed.fault.map fun f => ⟨.lexical f.1, f.2⟩)
  | _ => ([line], none)

def dumpTokens : List (Token × Span) → List String × Option Fault
  | [] => ([], none)
  | t :: ts =>
    match Token.dumpLines t with
    | (lines, some fault) => (lines, some fault)
    | (lines, none) =>
      let rest := dumpTokens ts
      (lines ++ rest.1, rest.2)

def ModifierName.dump : ModifierName → Dump
  | .known m => .atom m.name.capitalize
  | .unknown name => .call "Unknown" [.text name]

def Operand.dump (o : Operand) : Dump :=
  let call (c : ModifierCall) : Dump :=
    .record "ModifierCall" [("modifier", c.modifier.dump), ("args", .list (c.args.map Value.dump))]
  .record "Operand" [("path", .atom ("Path(" ++ ".".intercalate o.path ++ ")")),
    ("modifiers", .list (o.modifiers.map call))]

def Condition.dump : Condition → Dump
  | .truthy o span => .call "Truthy" [.noted o.dump span.dumped]
  | .not inner span => .call "Not" [.noted (.record "Not" [("expr", inner.dump)]) span.dumped]
  | .compare left op right span =>
    .call "Compare" [.noted (.record "Compare" [("left", left.dump), ("op", .atom op.dumpName),
      ("right", right.dump)]) span.dumped]
  | .and left right span =>
    .call "And"
      [.noted (.record "BinOp" [("left", left.dump), ("right", right.dump)]) span.dumped]
  | .or left right span =>
    .call "Or" [.noted (.record "BinOp" [("left", left.dump), ("right", right.dump)]) span.dumped]

mutual

def Node.dump : Node → Dump
  | .literal text span =>
    .call "Literal" [.noted (.record "Literal" [("text", .text text)]) span.dumped]
  | .output o span =>
    .call "VarRef" [.noted (.record "VarRef" [("operand", o.dump)]) span.dumped]
  | .conditional arms span =>
    .call "Conditional" [.noted (.record "Conditional" [("branches", .list arms.dumpBranches),
      ("else_body", arms.dumpFallback)]) span.dumped]

def Arms.dumpBranches : Arms → List Dump
  | .guarded guard body rest =>
    .record "Branch" [("expr", guard.dump), ("body", .list (dumpNodes body))] :: rest.dumpBranches
  | .otherwise _ | .done => []

def Arms.dumpFallback : Arms → Dump
  | .guarded _ _ rest => rest.dumpFallback
  | .otherwise body => Dump.optional (some (.list (dumpNodes body)))
  | .done => Dump.optional none

def dumpNodes : List Node → List Dump
  | [] => []
  | n :: ns => n.dump :: dumpNodes ns

end

def FaultKind.dumpName : FaultKind → String
  | .syntactic => "SyntaxError"
  | .badEscape => "BadEscape"
  | .tooDeep => "NestingTooDeep"

def Fault.dump (f : Fault) : Dump :=
  .record "Error" [("kind", .atom f.kind.dumpName),
    ("detail", Dump.optional (f.cause.detail.map Dump.text)),
    ("span", Dump.optional (some (.atom f.span.dumped))),
    ("source", Dump.optional (f.cause.source.map Dump.atom))]

end TitleTemplate
