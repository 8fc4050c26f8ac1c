import TitleTemplate.Dump.Tree
import TitleTemplate.Events.Basic

/-! What a run tells while it works: the events of the library and two steps of the command itself.
All of it is for debugging, and a log shows each notice with its fields. -/
namespace TitleTemplate

inductive Notice where
  | event (e : Event)
  | openedOutput (path : String)
  | convertingLegacy

namespace Notice

def message : Notice → String
  | .event e => e.message
  | .openedOutput _ => "writing output through temporary file"
  | .convertingLegacy => "converting legacy template"

def fields : Notice → List (String × EventField)
  | .event e => e.fields
  | .openedOutput path => [("path", .shown path)]
  | .convertingLegacy => []

/-- The names a setting may ask for; the message counts as a field too. -/
def fieldNames (n : Notice) : List String := "message" :: n.fields.map Prod.fst

def line (n : Notice) : String :=
  let field (f : String × EventField) : String :=
    " " ++ f.1 ++ "=" ++ match f.2 with
      | .text s => dumpString s
      | .shown s => s
  "DEBUG " ++ n.message ++ String.join (n.fields.map field)

/-- The part of a program that a notice comes from. The library bears the program's name, and the
command bears it with an ending. -/
def target (program : String) : Notice → String
  | .event (.unknownModifier _) | .event (.rejectedValue ..) | .event .truncateWithoutLength =>
    program ++ "::modifiers"
  | .event (.outputLimit _) => program ++ "::output"
  | .event (.keptSpan _) | .event (.constructTooDeep _) => program ++ "::convert"
  | .event (.unserializable _) => program ++ "::value::serialize"
  | .openedOutput _ => program ++ "_cli::output"
  | .convertingLegacy => program ++ "_cli"

end Notice
end TitleTemplate
