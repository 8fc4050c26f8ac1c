import TitleTemplate.Number.Reading
import TitleTemplate.Pattern.Reading
import TitleTemplate.Text.Search

/-! Directives of a log: `level`, `target`, `target=level` and `target[span{field=value}]=level`,
in which the target, the brackets or the level may be missing. A directive gives a level to the
notices it fits. -/
namespace TitleTemplate

inductive LogLevel where
  | off
  | error
  | warn
  | info
  | debug
  | trace
  deriving DecidableEq

namespace LogLevel

def ofText? (cs : List Char) : Option LogLevel :=
  match readNatUpTo? 5 cs with
  | some n => [off, error, warn, info, debug, trace][n]?
  | none =>
    match (String.ofList cs).toLower with
    | "off" => some off
    | "error" => some error
    | "warn" => some warn
    | "info" => some info
    | "debug" => some debug
    | "trace" => some trace
    | _ => none

def showsNotices : LogLevel → Bool
  | debug | trace => true
  | _ => false

end LogLevel

/-- A text that is looked at without the blanks around it, but taken from with them: places are
counted in the one and cut out of the other. -/
structure BlankedText where
  seen : List Char
  whole : List Char

namespace BlankedText

def ofChars (cs : List Char) : BlankedText := ⟨trimBlanks cs, cs⟩

def drop (t : BlankedText) (n : Nat) : BlankedText := ⟨t.seen.drop n, t.whole.drop n⟩

/-- How many characters can be seen before the first of some marks. -/
def lengthBefore (t : BlankedText) (marks : List Char) : Nat :=
  (t.seen.takeWhile (· ∉ marks)).length

end BlankedText

/-- Which notices a directive is about, its target apart: all of them, those with a field, or, if it
names a span or a value, only what happens in spans, where notices never are. -/
inductive DirectiveScope where
  | all
  | withField (name : String)
  | inSpans
  deriving DecidableEq

namespace DirectiveScope

def holds (fieldNames : List String) : DirectiveScope → Bool
  | all => true
  | withField name => name ∈ fieldNames
  | inSpans => false

def field : DirectiveScope → String
  | withField name => name
  | all | inSpans => ""

/-- The scope of a span and a field. A field may come with a value, which is a number or a
pattern. -/
def ofSpanField? (span field : List Char) : Option DirectiveScope :=
  match splitAtChar '=' field with
  | _ :: value :: _ =>
    if (Binary64.read? .double value).isSome || isPattern value then some inSpans else none
  | _ =>
    if field = [] then none
    else if span = [] then some (withField (String.ofList field))
    else some inSpans

/-- The scope in brackets, the first of which is behind, and what follows them. -/
def read? (t : BlankedText) : Option (DirectiveScope × BlankedText) :=
  let span := t.lengthBefore [']', '\x7b']
  let field := (t.drop (span + 1)).lengthBefore ['\x7d']
  match (t.drop span).seen, (t.drop (span + 1 + field)).seen with
  | ']' :: _, _ => some (inSpans, t.drop (span + 1))
  | _ :: _, '\x7d' :: ']' :: _ =>
    (ofSpanField? (t.whole.take span) ((t.drop (span + 1)).whole.take field)).map
      (·, t.drop (span + field + 3))
  | _, _ => none

end DirectiveScope

structure LogDirective where
  target : String
  scope : DirectiveScope
  level : LogLevel
  deriving DecidableEq

structure DirectiveText where
  target : List Char
  scope : DirectiveScope
  level : Option (List Char)

namespace DirectiveText

/-- What may follow the brackets: an equals sign and a level, or nothing. -/
def withLevel? (target : List Char) (scope : DirectiveScope) (t : BlankedText) :
    Option DirectiveText :=
  match t.seen with
  | [] => some ⟨target, scope, none⟩
  | '=' :: _ => some ⟨target, scope, some (t.drop 1).whole⟩
  | _ => none

/-- A target begins with a letter, a numeral or one of three marks, and ends before an equals sign
or a bracket. -/
def read? (t : BlankedText) : Option DirectiveText :=
  let starts (c : Char) : Bool := isAlphanumeric c || c ∈ ['-', ':', '_']
  let length := t.lengthBefore ['=', '[']
  let target := t.whole.take length
  if (t.seen.take length).head?.all starts then
    match (t.drop length).seen with
    | '[' :: _ =>
      (DirectiveScope.read? (t.drop (length + 1))).bind fun (scope, rest) =>
        withLevel? target scope rest
    | '=' :: _ => if length = 0 then none else withLevel? target .all (t.drop length)
    | _ => if length = 0 then none else some ⟨t.whole, .all, none⟩
  else none

/-- What a text alone means: a level for all notices, or else a target that shows everything. An
empty level shows everything too. -/
def meaning? (d : DirectiveText) : Option LogDirective :=
  match d.level with
  | some [] => some ⟨String.ofList d.target, d.scope, .trace⟩
  | some level => (LogLevel.ofText? level).map (⟨String.ofList d.target, d.scope, ·⟩)
  | none =>
    match d.scope, LogLevel.ofText? d.target with
    | .all, some level => some ⟨"", .all, level⟩
    | scope, _ => some ⟨String.ofList d.target, scope, .trace⟩

end DirectiveText

namespace LogDirective

def ofText? (cs : List Char) : Option LogDirective :=
  (DirectiveText.read? (.ofChars cs)).bind DirectiveText.meaning?

def fits (target : String) (fieldNames : List String) (d : LogDirective) : Bool :=
  d.target.toList.isPrefixOf target.toList && d.scope.holds fieldNames

/-- Whether a directive gives way to a later one that fits too: to one whose target is longer, and
of two with the same target to one that asks for a field, or for a later field in the alphabet. -/
def yieldsTo (d later : LogDirective) : Bool :=
  d.target.length < later.target.length ||
    (d.target.length = later.target.length && d.scope.field ≤ later.scope.field)

end LogDirective
end TitleTemplate
