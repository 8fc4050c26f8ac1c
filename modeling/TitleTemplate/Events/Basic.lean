import TitleTemplate.Value.Basic

/-! What happens while templates are rendered and converted that the result alone does not show:
values that were dropped, output that was cut, constructs that were left alone. -/
namespace TitleTemplate

inductive Event where
  | unknownModifier (name : String)
  | rejectedValue (modifier : String) (kind : Kind)
  | truncateWithoutLength
  | outputLimit (limit : Nat)
  | keptSpan (offset : Nat)
  | constructTooDeep (offset : Nat)
  | unserializable (reason : String)

/-- The value of a field of an event. Plain texts are quoted in a log, all else is not. -/
inductive EventField where
  | text (s : String)
  | shown (s : String)

namespace Event

def message : Event → String
  | .unknownModifier _ => "unknown modifier, passing value through"
  | .rejectedValue .. => "modifier does not accept value, rendering empty"
  | .truncateWithoutLength => "truncate without a valid length, passing value through"
  | .outputLimit _ => "output limit reached, truncating"
  | .keptSpan _ => "keeping span that is not a legacy construct"
  | .constructTooDeep _ => "legacy construct nested too deep"
  | .unserializable _ => "value could not be serialized, treating as undefined"

def fields : Event → List (String × EventField)
  | .unknownModifier name => [("modifier", .shown name)]
  | .rejectedValue modifier kind => [("modifier", .text modifier), ("kind", .shown kind.name)]
  | .truncateWithoutLength => []
  | .outputLimit limit => [("max_len", .shown (toString limit))]
  | .keptSpan offset | .constructTooDeep offset => [("offset", .shown (toString offset))]
  | .unserializable reason => [("error", .shown reason)]

end Event

/-- A result together with the events on the way to it, in order. -/
structure Logged (α : Type) where
  value : α
  events : List Event

namespace Logged
variable {α β : Type}

instance : Monad Logged where
  pure a := ⟨a, []⟩
  bind x f := ⟨(f x.value).value, x.events ++ (f x.value).events⟩

def emit (e : Event) : Logged Unit := ⟨(), [e]⟩

@[simp] theorem value_pure (a : α) : (pure a : Logged α).value = a := rfl

@[simp] theorem value_bind (x : Logged α) (f : α → Logged β) :
    (x >>= f).value = (f x.value).value := rfl

@[simp] theorem value_map (f : α → β) (x : Logged α) : (f <$> x).value = f x.value := rfl

end Logged
end TitleTemplate
