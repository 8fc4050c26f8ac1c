import TitleTemplate.Pattern.CharClass
import TitleTemplate.Text.Alphanumeric

/-! Whether a text is a pattern: characters, classes, places, groups in parentheses, repetitions and
alternatives, nested to a limit. Only the form counts here, nothing is ever matched. A pattern
stands between braces, so that it never holds a closing one, and no count of repetitions is ever
read. -/
namespace TitleTemplate

/-- A part of a sequence: how deep it is nested, and whether it can be repeated. -/
structure PatternPart where
  height : Nat
  isRepeatable : Bool

/-- A group that is being read: the flags in force outside, the heights of the alternatives read so
far, and the parts of the present one, the last part first. -/
structure OpenGroup where
  outside : PatternFlags
  alternatives : List Nat
  parts : List PatternPart

def highest (heights : List Nat) : Nat := heights.foldl max 0

namespace OpenGroup

def ofFlags (outside : PatternFlags) : OpenGroup := ⟨outside, [], []⟩

def add (g : OpenGroup) (part : PatternPart) : OpenGroup := { g with parts := part :: g.parts }

/-- The height of the present alternative. A sequence of several parts is a level of its own. -/
def sequenceHeight (g : OpenGroup) : Nat :=
  let heights := g.parts.map PatternPart.height
  if g.parts.length ≤ 1 then highest heights else highest heights + 1

def height (g : OpenGroup) : Nat :=
  if g.alternatives.isEmpty then g.sequenceHeight
  else highest (g.sequenceHeight :: g.alternatives) + 1

def alternate (g : OpenGroup) : OpenGroup :=
  ⟨g.outside, g.sequenceHeight :: g.alternatives, []⟩

def repeat? (g : OpenGroup) : Option OpenGroup :=
  match g.parts with
  | part :: parts =>
    if part.isRepeatable then some { g with parts := ⟨part.height + 1, true⟩ :: parts } else none
  | [] => none

end OpenGroup

inductive PatternOpening where
  | setting (flags : PatternFlags)
  | group (flags : PatternFlags) (name : Option (List Char))

namespace PatternOpening

def isNameChar (c : Char) : Bool := isAlphanumeric c || c ∈ ['_', '.', '[', ']']

def readName? (cs : List Char) : Option (List Char × List Char) :=
  let name := cs.takeWhile isNameChar
  match name, cs.drop name.length with
  | c :: _, '>' :: rest => if c = '_' || isAlphabetic c then some (name, rest) else none
  | _, _ => none

/-- Flags alone have to name something. -/
def read? (flags : PatternFlags) (cs : List Char) : Option (PatternOpening × List Char) :=
  match flags.skip cs with
  | '?' :: 'P' :: '<' :: rest | '?' :: '<' :: rest =>
    (readName? rest).map fun (name, rest) => (group flags (some name), rest)
  | '?' :: rest =>
    match PatternFlags.read? [] flags rest with
    | some (named, flags, ')' :: rest) => if named = [] then none else some (setting flags, rest)
    | some (_, flags, _ :: rest) => some (group flags none, rest)
    | _ => none
  | rest => some (group flags none, rest)

end PatternOpening

structure PatternState where
  flags : PatternFlags
  /-- The names of groups, no two of which are equal. -/
  names : List (List Char)
  current : OpenGroup
  outer : List OpenGroup

namespace PatternState

def initial : PatternState := ⟨.initial, [], .ofFlags .initial, []⟩

def add (s : PatternState) (height : Nat) (isRepeatable : Bool) : PatternState :=
  { s with current := s.current.add ⟨height, isRepeatable⟩ }

def enter? (s : PatternState) : PatternOpening → Option PatternState
  | .setting flags => some { s.add 0 false with flags := flags }
  | .group flags name =>
    if name.any (· ∈ s.names) then none
    else some ⟨flags, name.toList ++ s.names, .ofFlags s.flags, s.current :: s.outer⟩

def leave? (s : PatternState) : Option PatternState :=
  match s.outer with
  | group :: outer =>
    some ⟨s.current.outside, s.names, group.add ⟨s.current.height + 1, true⟩, outer⟩
  | [] => none

def step? (s : PatternState) (c : Char) (rest : List Char) : Option (PatternState × List Char) :=
  if c = '(' then do
    let (opening, rest) ← PatternOpening.read? s.flags rest
    return (← s.enter? opening, rest)
  else if c = ')' then s.leave?.map (·, rest)
  else if c = '|' then some ({ s with current := s.current.alternate }, rest)
  else if c = '[' then
    (ClassPart.read? s.flags rest).map fun (part, rest) => (s.add part.height true, rest)
  else if c ∈ ['?', '*', '+'] then
    s.current.repeat?.map fun group =>
      ({ s with current := group }, if rest.head? = some '?' then rest.drop 1 else rest)
  else if c = '\x7b' then none
  else if c = '.' then if s.flags.isUnicode then some (s.add 0 true, rest) else none
  else if c ∈ ['^', '$'] then some (s.add 0 true, rest)
  else do
    let (atom, rest) ← ClassPart.readAtom? s.flags (c :: rest)
    if atom.isAdmitted s.flags then some (s.add 0 true, rest) else none

/-- The height of a pattern read to its end. Every step takes a character, so that the first
argument is never used up. -/
def heightFrom? : Nat → PatternState → List Char → Option Nat
  | 0, _, _ => none
  | fuel + 1, s, cs =>
    match s.flags.skip cs with
    | [] => if s.outer.isEmpty then some s.current.height else none
    | c :: rest =>
      match s.step? c rest with
      | some (s, rest) => heightFrom? fuel s rest
      | none => none

end PatternState

def deepestPattern : Nat := 250

def isPattern (cs : List Char) : Bool :=
  (PatternState.initial.heightFrom? (cs.length + 1) cs).any (· ≤ deepestPattern)

end TitleTemplate
