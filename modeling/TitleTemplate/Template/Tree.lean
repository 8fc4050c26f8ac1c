import TitleTemplate.Modifier.Basic
import TitleTemplate.Template.Lexeme
import TitleTemplate.Value.Basic

/-! Templates as trees: texts, outputs, and conditionals with their arms. -/
namespace TitleTemplate

structure ModifierCall where
  modifier : ModifierName
  args : List Value

/-- A path into the context, and the modifiers its value goes through. -/
structure Operand where
  path : List String
  modifiers : List ModifierCall

inductive Condition where
  | truthy (operand : Operand) (span : Span)
  | not (inner : Condition) (span : Span)
  | compare (left : Operand) (op : Comparison) (right : Value) (span : Span)
  | and (left right : Condition) (span : Span)
  | or (left right : Condition) (span : Span)

mutual

inductive Node where
  | literal (text : String) (span : Span)
  | output (operand : Operand) (span : Span)
  | conditional (arms : Arms) (span : Span)

/-- The arms of a conditional from one of them on: the guarded ones in order, then perhaps one
without a guard. -/
inductive Arms where
  | guarded (guard : Condition) (body : List Node) (rest : Arms)
  | otherwise (body : List Node)
  | done

end

instance : Inhabited Node := ⟨.literal "" default⟩

def Node.span : Node → Span
  | .literal _ span | .output _ span | .conditional _ span => span

namespace Arms

def branches : Arms → List (Condition × List Node)
  | .guarded guard body rest => (guard, body) :: rest.branches
  | .otherwise _ | .done => []

def fallback : Arms → Option (List Node)
  | .guarded _ _ rest => rest.fallback
  | .otherwise body => some body
  | .done => none

end Arms

def Condition.span : Condition → Span
  | .truthy _ span | .not _ span | .compare _ _ _ span | .and _ _ span | .or _ _ span => span

end TitleTemplate
