import TitleTemplate.Pattern.Escape

/-! Classes of characters in a pattern: items and ranges in brackets, further classes among them,
and operations on what stands before and after two equal marks. -/
namespace TitleTemplate

/-- What matters of a class or a part of one: how deep it is nested, and whether it holds what lies
beyond ASCII. Where a pattern is about bytes, a class holds all of that or nothing, because only
turning a class around brings it in. -/
structure ClassPart where
  height : Nat
  beyondAscii : Bool

inductive ClassOp where
  | intersection
  | difference
  | symmetricDifference

def ClassOp.apply : ClassOp → Bool → Bool → Bool
  | .intersection, a, b => a && b
  | .difference, a, b => a && !b
  | .symmetricDifference, a, b => a != b

def ClassOp.read? : List Char → Option (ClassOp × List Char)
  | '&' :: '&' :: rest => some (.intersection, rest)
  | '-' :: '-' :: rest => some (.difference, rest)
  | '~' :: '~' :: rest => some (.symmetricDifference, rest)
  | _ => none

/-- A class that is being read: the left side of an operation, and the items since. At its beginning
hyphens, and then a bracket if there are none, stand for themselves. -/
structure OpenClass where
  negated : Bool
  atStart : Bool
  left : Option (ClassPart × ClassOp)
  count : Nat
  items : ClassPart

namespace OpenClass

def ofNegated (negated : Bool) : OpenClass := ⟨negated, true, none, 0, ⟨0, false⟩⟩

def add (s : OpenClass) (part : ClassPart) : OpenClass :=
  { s with
    count := s.count + 1
    items := ⟨max s.items.height part.height, s.items.beyondAscii || part.beyondAscii⟩ }

/-- The items as one part, together with the left side of an operation. -/
def whole (s : OpenClass) : ClassPart :=
  let right : ClassPart :=
    if s.count ≤ 1 then s.items else { s.items with height := s.items.height + 1 }
  match s.left with
  | none => right
  | some (left, op) =>
    ⟨max left.height right.height + 1, op.apply left.beyondAscii right.beyondAscii⟩

def operate (s : OpenClass) (op : ClassOp) : OpenClass :=
  ⟨s.negated, false, some (s.whole, op), 0, ⟨0, false⟩⟩

/-- The class that a bracket closes. Bytes beyond ASCII are no text on their own. -/
def close? (flags : PatternFlags) (s : OpenClass) : Option ClassPart :=
  let beyond := s.whole.beyondAscii != s.negated
  if !flags.isUnicode && beyond then none else some ⟨s.whole.height + 1, beyond⟩

/-- What is read after an opening bracket: a caret turns the class around. -/
def start (flags : PatternFlags) (cs : List Char) : OpenClass × List Char :=
  match flags.skip cs with
  | '^' :: rest => (ofNegated true, rest)
  | rest => (ofNegated false, rest)

end OpenClass

namespace ClassPart

def asciiNames : List String :=
  ["alnum", "alpha", "ascii", "blank", "cntrl", "digit", "graph", "lower", "print", "punct",
    "space", "upper", "word", "xdigit"]

/-- A class by its name between colons, after the bracket before it; a caret turns it around. -/
def readNamed? : List Char → Option (Bool × List Char)
  | ':' :: cs =>
    let (negated, cs) := match cs with
      | '^' :: rest => (true, rest)
      | _ => (false, cs)
    let name := cs.takeWhile (· ≠ ':')
    match cs.drop name.length with
    | ':' :: ']' :: rest => if String.ofList name ∈ asciiNames then some (negated, rest) else none
    | _ => none
  | _ => none

/-- Whether a character can be an item. Classes of bytes hold none beyond ASCII. -/
def admits (flags : PatternFlags) (c : Char) (isByte : Bool) : Bool :=
  flags.admits c isByte && (flags.isUnicode || c.toNat < 128)

def readAtom? (flags : PatternFlags) : List Char → Option (PatternAtom × List Char)
  | [] => none
  | '\\' :: cs => PatternAtom.readEscape? flags cs
  | c :: cs => some (.literal c false, cs)

def ofAtom? (flags : PatternFlags) : PatternAtom → Option ClassPart
  | .literal c isByte => if admits flags c isByte then some ⟨0, false⟩ else none
  | .asciiClass => some ⟨0, false⟩
  | .anchor => none

def ofRange? (flags : PatternFlags) : PatternAtom → PatternAtom → Option ClassPart
  | .literal a byteA, .literal b byteB =>
    if a ≤ b && admits flags a byteA && admits flags b byteB then some ⟨0, false⟩ else none
  | _, _ => none

/-- An item or a range. A hyphen before another one or before a bracket makes no range. -/
def readItem? (flags : PatternFlags) (cs : List Char) : Option (ClassPart × List Char) := do
  let (first, rest) ← readAtom? flags cs
  match flags.skip rest with
  | '-' :: after =>
    if flags.next? after = some ']' ∨ flags.next? after = some '-' then
      return (← ofAtom? flags first, '-' :: after)
    else
      let (last, rest) ← readAtom? flags (flags.skip after)
      return (← ofRange? flags first last, rest)
  | rest => return (← ofAtom? flags first, rest)

/-- Reads classes to the end of the outermost, the innermost being the first of the list. Every step
but the last takes a character, so that the first argument is never used up. -/
def readFrom? (flags : PatternFlags) :
    Nat → OpenClass → List OpenClass → List Char → Option (ClassPart × List Char)
  | 0, _, _, _ => none
  | fuel + 1, s, outer, cs =>
    match flags.skip cs with
    | [] => none
    | c :: rest =>
      if s.atStart && (c = '-' || (c = ']' && s.count = 0)) then
        if admits flags c false then
          readFrom? flags fuel { s.add ⟨0, false⟩ with atStart := c = '-' } outer rest
        else none
      else
        let s := { s with atStart := false }
        if c = '[' then
          match readNamed? rest with
          | some (negated, rest) =>
            if flags.isUnicode && flags.ignoresCase then none
            else readFrom? flags fuel (s.add ⟨0, negated⟩) outer rest
          | none =>
            let (inner, rest) := OpenClass.start flags rest
            readFrom? flags fuel inner (s :: outer) rest
        else if c = ']' then
          match s.close? flags, outer with
          | none, _ => none
          | some part, [] => some (part, rest)
          | some part, s :: outer => readFrom? flags fuel (s.add part) outer rest
        else
          match ClassOp.read? (c :: rest) with
          | some (op, rest) => readFrom? flags fuel (s.operate op) outer rest
          | none =>
            match readItem? flags (c :: rest) with
            | some (item, rest) => readFrom? flags fuel (s.add item) outer rest
            | none => none

def read? (flags : PatternFlags) (cs : List Char) : Option (ClassPart × List Char) :=
  let (s, rest) := OpenClass.start flags cs
  readFrom? flags (cs.length + 1) s [] rest

end ClassPart
end TitleTemplate
