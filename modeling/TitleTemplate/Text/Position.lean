/-! Places in a text and its size. Lines count from one, columns count characters of the line from
zero, and offsets and sizes count bytes of the UTF-8 encoding. A text is cut to a size after the last
whole character that fits. -/
namespace TitleTemplate

def byteSize : List Char → Nat
  | [] => 0
  | c :: cs => c.utf8Size + byteSize cs

def cut : Nat → List Char → List Char
  | _, [] => []
  | room, c :: cs => if c.utf8Size ≤ room then c :: cut (room - c.utf8Size) cs else []

/-- `cut` on strings; a string that fits is returned as it is. -/
def cutString (room : Nat) (s : String) : String :=
  if s.utf8ByteSize ≤ room then s else String.ofList (cut room s.toList)

structure Position where
  line : Nat
  column : Nat
  offset : Nat
  deriving DecidableEq, Inhabited

/-- From `start` up to but not including `stop`. -/
structure Span where
  start : Position
  stop : Position
  deriving DecidableEq, Inhabited

namespace Position

def first : Position := ⟨1, 0, 0⟩

def next (p : Position) (c : Char) : Position :=
  if c = '\n' then ⟨p.line + 1, 0, p.offset + c.utf8Size⟩
  else ⟨p.line, p.column + 1, p.offset + c.utf8Size⟩

def after (p : Position) (cs : List Char) : Position := cs.foldl next p

end Position

namespace Span

def upTo (s : Span) (stop : Position) : Span := ⟨s.start, stop⟩

def dumped (s : Span) : String :=
  s!" @ {s.start.line}:{s.start.column}-{s.stop.line}:{s.stop.column}"

end Span

end TitleTemplate
