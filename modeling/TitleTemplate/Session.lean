import TitleTemplate.Dump.Tree
import TitleTemplate.Template.Blocks
import TitleTemplate.Template.Render
import TitleTemplate.Value.Keyed

/-! Parsed templates that carry their limits, and sessions, whose limits may change from one
template to the next and which keep parsed templates under names. -/
namespace TitleTemplate

structure Template where
  source : String
  nodes : List Node
  limits : Limits

namespace Template

/-- The template keeps the limits it is parsed with. -/
def parse (limits : Limits) (source : String) : Except Fault Template := do
  return ⟨source, ← TitleTemplate.parse limits.depth source, limits⟩

def render (t : Template) (context : Value) : Logged String := do
  let limit := some t.limits.output
  return (← renderAll ⟨context, limit⟩ (BoundedText.empty limit) t.nodes).text

def dump (t : Template) : Dump :=
  .record "Template" [("source", .text t.source),
    ("limits", .record "Limits" [("max_nesting_depth", .atom (toString t.limits.depth)),
      ("max_output_len", .atom (toString t.limits.output))])]

end Template

/-- Parses a template and renders it against data that goes through JSON. -/
def renderData (limits : Limits) (source : String) (data : Value) :
    Except Fault (Logged String) := do
  return (← Template.parse limits source).render data.throughJson

structure Session where
  limits : Limits
  slots : List (String × Template)

namespace Session

def start : Session := ⟨.default, []⟩

/-- Parses into a slot; a template that is refused leaves the slot as it was. -/
def parse (s : Session) (slot source : String) : Except Fault Session := do
  let template ← Template.parse s.limits source
  return { s with slots := Entries.insert slot template s.slots }

def find? (s : Session) (slot : String) : Option Template := Entries.find? slot s.slots

def copy (s : Session) (slot target : String) : Option Session :=
  (s.find? slot).map fun t => { s with slots := Entries.insert target t s.slots }

end Session
end TitleTemplate
