import TitleTemplate.Modifier.Apply
import TitleTemplate.Template.Lexeme
import TitleTemplate.Template.Tree
import TitleTemplate.Text.Search
import TitleTemplate.Value.Basic

/-! Rendering a template against a context. It cannot fail; what goes wrong on the way is told by
events. Nothing is evaluated once the output is full. Operands that cannot be compared with a literal
make every comparison false, and `!=` true. -/
namespace TitleTemplate

/-- Equality by the kind of the value on the left: texts with the literal's text, numbers with the
number it stands for, booleans with the boolean it spells. -/
def matchesLiteral (left right : Value) : Bool :=
  match left with
  | .str s => s == right.display
  | .int _ | .float _ =>
    match left.number?, right.number? with
    | some x, some y => x.equal y
    | _, _ => false
  | .bool b =>
    match right with
    | .bool c => b == c
    | .str s => s == (if b then "true" else "false")
    | _ => false
  | _ => false

/-- Whether the text of the literal occurs in the text of a value, or of an item of a sequence. -/
def containsLiteral (left right : Value) : Bool :=
  let occurs (v : Value) : Bool :=
    (v.scalarText?.map fun s => occursIn right.display.toList s.toList).getD false
  match left with
  | .seq items => items.any occurs
  | v => occurs v

def orderedBy (test : Binary64 → Binary64 → Bool) (left right : Value) : Bool :=
  match left.number?, right.number? with
  | some x, some y => test x y
  | _, _ => false

def Comparison.holds (op : Comparison) (left right : Value) : Bool :=
  match op with
  | .eq => matchesLiteral left right
  | .ne => !matchesLiteral left right
  | .gt => orderedBy (fun x y => y.less x) left right
  | .gte => orderedBy (fun x y => y.atMost x) left right
  | .lt => orderedBy Binary64.less left right
  | .lte => orderedBy Binary64.atMost left right
  | .contains => containsLiteral left right

/-- What a template is rendered against, and the limit of the texts that modifiers make. -/
structure Scope where
  context : Value
  limit : Option Nat

def Operand.evaluate (scope : Scope) (o : Operand) : Logged Value :=
  o.modifiers.foldlM (fun v call => call.modifier.apply v call.args scope.limit)
    (scope.context.lookup o.path)

/-- Whether a condition holds. The right side of `and` and `or` is looked at only if it matters. -/
def Condition.holds (scope : Scope) : Condition → Logged Bool
  | .truthy o _ => do return (← o.evaluate scope).isTruthy
  | .not inner _ => do return !(← inner.holds scope)
  | .compare left op right _ => do return op.holds (← left.evaluate scope) right
  | .and left right _ => do if ← left.holds scope then right.holds scope else return false
  | .or left right _ => do if ← left.holds scope then return true else right.holds scope

mutual

def Node.render (scope : Scope) (out : BoundedText) : Node → Logged BoundedText
  | .literal text _ => out.write text
  | .output o _ => do out.write (← o.evaluate scope).display
  | .conditional arms _ => arms.render scope out

def Arms.render (scope : Scope) (out : BoundedText) : Arms → Logged BoundedText
  | .guarded guard body rest => do
    if ← guard.holds scope then renderAll scope out body else rest.render scope out
  | .otherwise body => renderAll scope out body
  | .done => pure out

def renderAll (scope : Scope) (out : BoundedText) : List Node → Logged BoundedText
  | [] => pure out
  | n :: ns => if out.full then pure out else do renderAll scope (← n.render scope out) ns

end

end TitleTemplate
