import TitleTemplate.Events.Basic
import TitleTemplate.Text.Position

/-! Text that is written piece by piece up to a limit in bytes. The piece that crosses the limit is
cut after the last whole character that fits, and what is written after it is dropped. -/
namespace TitleTemplate

structure BoundedText where
  text : String
  /-- No limit when `none`. -/
  limit : Option Nat
  /-- Whether a piece has been cut. -/
  full : Bool

namespace BoundedText

def empty (limit : Option Nat) : BoundedText := ⟨"", limit, false⟩

def write (out : BoundedText) (s : String) : Logged BoundedText :=
  if out.full then pure out
  else
    match out.limit with
    | none => pure { out with text := out.text ++ s }
    | some limit =>
      let room := limit - out.text.utf8ByteSize
      if s.utf8ByteSize ≤ room then pure { out with text := out.text ++ s }
      else do
        Logged.emit (.outputLimit limit)
        return ⟨out.text ++ cutString room s, out.limit, true⟩

/-- Writes pieces in order, with a separator before each but the first, until the output is full.
The flag says whether a separator is due. -/
def writeJoined (separator : String) : Bool → List String → BoundedText → Logged BoundedText
  | _, [], out => pure out
  | due, s :: rest, out =>
    if out.full then pure out
    else do
      let out ← if due then out.write separator else pure out
      let out ← out.write s
      writeJoined separator true rest out

def writeAll : List String → BoundedText → Logged BoundedText
  | [], out => pure out
  | s :: rest, out => do writeAll rest (← out.write s)

end BoundedText
end TitleTemplate
