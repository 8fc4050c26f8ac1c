import TitleTemplate.Template.Lexeme

/-! What can be wrong with a template, where it is wrong, and how it is said. -/
namespace TitleTemplate

/-- What would have been right in the place of something unexpected. -/
inductive Expected where
  | path
  | modifierName
  | argument
  | commaOrParen
  | comparedLiteral
  | ending
  deriving DecidableEq

inductive Cause where
  | lexical (fault : LexicalFault)
  /-- A lexeme, or the end of the expression, in a place where it cannot stand. -/
  | unexpected (found : Option Lexeme) (expected : Expected)
  | invalidPath (raw : String)
  | emptyExpression
  | missingCondition (keyword : String)
  | elifOutside
  | elifAfterElse
  | elseOutside
  | elseAfterElse
  | endOutside
  | unclosed
  | conditionTooDeep
  | blocksTooDeep (limit : Nat)
  deriving DecidableEq

inductive FaultKind where
  | syntactic
  | badEscape
  | tooDeep
  deriving DecidableEq

/-- Why a template is refused, and the part of its source that is to blame. -/
structure Fault where
  cause : Cause
  span : Span
  deriving DecidableEq

def Lexeme.shown : Lexeme → String
  | .word w => "`" ++ w ++ "`"
  | .text .. => "string"
  | .pipe => "`|`"
  | .parenOpen => "`(`"
  | .parenClose => "`)`"
  | .comma => "`,`"
  | .compare op => "`" ++ op.symbol ++ "`"

def Expected.shown : Expected → String
  | .path => "path"
  | .modifierName => "modifier name"
  | .argument => "modifier argument"
  | .commaOrParen => "`,` or `)`"
  | .comparedLiteral => "literal to compare against"
  | .ending => "end of expression"

namespace Cause

def kind : Cause → FaultKind
  | .lexical (.escape _) => .badEscape
  | .conditionTooDeep | .blocksTooDeep _ => .tooDeep
  | _ => .syntactic

def detail : Cause → Option String
  | .lexical .loneExclamation => some "unexpected character `!`"
  | .lexical .danglingBackslash => some "unexpected end of expression"
  | .lexical .unclosedText => some "unexpected end of string"
  | .lexical (.escape .malformed) => none
  | .lexical (.escape .badUnit) => some "invalid unicode escape"
  | .unexpected found expected =>
    let found := (found.map Lexeme.shown).getD "end of expression"
    some ("unexpected " ++ found ++ ", expected " ++ expected.shown)
  | .invalidPath raw =>
    some ("invalid path `" ++ raw ++
      "`, segments may only contain letters, digits, `_`, `-`, `$` or `@`")
  | .emptyExpression => some "empty expression"
  | .missingCondition keyword => some ("missing condition after " ++ keyword)
  | .elifOutside => some "unexpected elif outside of if block"
  | .elifAfterElse => some "unexpected elif after else"
  | .elseOutside => some "unexpected else outside of if block"
  | .elseAfterElse => some "duplicate else in if block"
  | .endOutside => some "unexpected /if outside of if block"
  | .unclosed => some "unclosed if block"
  | .conditionTooDeep => some "expression exceeds maximum nesting depth"
  | .blocksTooDeep limit => some ("if blocks nested deeper than " ++ toString limit ++ " levels")

/-- The fault of the number behind a malformed escape, which is reported beside it. -/
def source : Cause → Option String
  | .lexical (.escape .badUnit) => some "invalid digit found in string"
  | _ => none

end Cause

def FaultKind.shown : FaultKind → String
  | .syntactic => "syntax error"
  | .badEscape => "bad string escape"
  | .tooDeep => "nesting too deep"

namespace Fault

def kind (f : Fault) : FaultKind := f.cause.kind

def message (f : Fault) : String :=
  let head := match f.cause.detail with
    | some detail => f.kind.shown ++ ": " ++ detail
    | none => f.kind.shown
  let p := f.span.start
  s!"{head} (at line {p.line}, column {p.column}, offset {p.offset})"

end Fault
end TitleTemplate
