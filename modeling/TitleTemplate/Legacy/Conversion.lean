import TitleTemplate.Events.Basic
import TitleTemplate.Legacy.Head
import TitleTemplate.Template.Blocks

/-! Conversion of templates in the older dialect. A brace that begins a construct of the dialect is
rewritten with everything up to the end of the construct; one that begins an output is kept; any
other brace is doubled, so that it stays text. What is known about a brace is remembered by its
offset, because branches are read again when the construct around them fails. -/
namespace TitleTemplate.Legacy

def maxDepth : Nat := 32

/-- Text that has been converted, and how many characters of the source it stands for. -/
structure Converted where
  length : Nat
  text : List Char
  deriving DecidableEq

/-- What has been learned about braces so far, and the events, both latest first. -/
structure Notes where
  known : List (Nat × Option Converted)
  events : List Event

def Notes.learn (n : Notes) (offset : Nat) (found : Option Converted) : Notes :=
  { n with known := (offset, found) :: n.known }

def Notes.tell (n : Notes) (e : Event) : Notes := { n with events := e :: n.events }

def isReadable (text : List Char) : Bool :=
  match parse Limits.default.depth (String.ofList text) with
  | .ok _ => true
  | .error _ => false

/-- A conditional over two converted branches. An empty second branch is left out. -/
def conditional (head : Head) (whenTrue whenFalse : List Char) : List Char :=
  let opening := "\x7bif ".toList ++ head.condition ++ ['\x7d']
  let otherwise := if whenFalse = [] then [] else "\x7belse\x7d".toList ++ whenFalse
  opening ++ whenTrue ++ otherwise ++ "\x7b/if\x7d".toList

/-- Puts text before what was converted after it, if anything was. -/
def Converted.prepend (taken : Nat) (text : List Char) (found : Option Converted × Notes) :
    Option Converted × Notes :=
  (found.1.map fun c => ⟨taken + c.length, text ++ c.text⟩, found.2)

/-- Reads what begins at an offset of the source, given the text from there on and what is known
so far. For constructs the offset is that of the brace, and the text is what follows the brace. -/
abbrev Reader := Nat → List Char → Notes → Option Converted × Notes

/-- The rest of a branch after its opening quote. A backslash stands for a quote or backslash after
it and else for itself; constructs inside are converted in turn. -/
def branchFrom (inside : Reader) (quote : Char) (offset : Nat) (cs : List Char) (notes : Notes) :
    Option Converted × Notes :=
  match cs with
  | [] => (none, notes)
  | '\\' :: c :: rest =>
    if c = quote ∨ c = '\\' then
      Converted.prepend 2 [c] (branchFrom inside quote (offset + 1 + c.utf8Size) rest notes)
    else Converted.prepend 1 ['\\'] (branchFrom inside quote (offset + 1) (c :: rest) notes)
  | '\x7b' :: rest =>
    match inside offset rest notes with
    | (some found, notes) =>
      let start := offset + 1 + byteSize (rest.take found.length)
      Converted.prepend (1 + found.length) found.text
        (branchFrom inside quote start (rest.drop found.length) notes)
    | (none, notes) =>
      Converted.prepend 1 ['\x7b', '\x7b'] (branchFrom inside quote (offset + 1) rest notes)
  | c :: rest =>
    if c = quote then (some ⟨1, []⟩, notes)
    else Converted.prepend 1 [c] (branchFrom inside quote (offset + c.utf8Size) rest notes)
termination_by cs.length

def branch (inside : Reader) : Reader := fun offset cs notes =>
  match cs with
  | [] => (none, notes)
  | quote :: rest =>
    if isQuote quote then Converted.prepend 1 [] (branchFrom inside quote (offset + 1) rest notes)
    else (none, notes)

def readConstruct (inside : Reader) : Reader := fun offset cs notes =>
  match Head.read cs with
  | some (head, '\x7d' :: rest) =>
    if head.check.isSome then (none, notes)
    else (some ⟨cs.length - rest.length, '\x7b' :: (head.operand ++ ['\x7d'])⟩, notes)
  | some (head, '[' :: rest) =>
    let start := offset + 1 + byteSize (cs.take (cs.length - rest.length))
    match branch inside start rest notes with
    | (none, notes) => (none, notes)
    | (some first, notes) =>
      match rest.drop first.length with
      | ']' :: '\x7d' :: rest =>
        (some ⟨cs.length - rest.length, conditional head first.text []⟩, notes)
      | '|' :: '|' :: rest =>
        let start := offset + 1 + byteSize (cs.take (cs.length - rest.length))
        match branch inside start rest notes with
        | (none, notes) => (none, notes)
        | (some second, notes) =>
          match rest.drop second.length with
          | ']' :: '\x7d' :: rest =>
            (some ⟨cs.length - rest.length, conditional head first.text second.text⟩, notes)
          | _ => (none, notes)
      | _ => (none, notes)
  | _ => (none, notes)

/-- The construct at a brace that stands in the branches of so many others. A construct counts only
if its conversion can be read as a template. -/
def construct (depth : Nat) : Reader := fun offset cs notes =>
  match notes.known.lookup offset with
  | some found => (found, notes)
  | none =>
    if maxDepth < depth then (none, (notes.tell (.constructTooDeep offset)).learn offset none)
    else
      let (found, notes) := readConstruct (construct (depth + 1)) offset cs notes
      let found := found.filter (isReadable ·.text)
      (found, notes.learn offset found)
termination_by maxDepth + 1 - depth

/-- How many characters after a brace belong to the expression it opens, when no other brace opens
in it outside of quotes. -/
def spanLength : Option Char → List Char → Option Nat
  | _, [] => none
  | _, ['\\'] => none
  | quote, '\\' :: _ :: cs => (spanLength quote cs).map (· + 2)
  | quote, c :: cs =>
    if c = '\x7d' then some 1
    else
      match quote with
      | none =>
        if c = '\x7b' then none
        else (spanLength (if isQuote c then some c else none) cs).map (· + 1)
      | some q => (spanLength (if c = q then none else some q) cs).map (· + 1)

def isOutput (text : List Char) : Bool :=
  match parse Limits.default.depth (String.ofList text) with
  | .ok [.output _ _] => true
  | _ => false

/-- The expression after a brace that can stay as it is. -/
def keptSpan (cs : List Char) : Option Nat :=
  (spanLength none cs).filter fun n => isOutput ('\x7b' :: cs.take n)

/-- A part of a template in the older dialect, with what is written for it. -/
inductive Segment where
  | verbatim (c : Char)
  /-- A construct, by the text it is converted to. -/
  | rewritten (text : List Char)
  /-- An output that stays as it is. -/
  | kept (text : List Char)
  /-- A brace that begins nothing. -/
  | brace

def Segment.written : Segment → List Char
  | .verbatim c => [c]
  | .rewritten text | .kept text => text
  | .brace => ['\x7b', '\x7b']

def segmentsFrom (inside : Reader) (offset : Nat) (cs : List Char) (notes : Notes) :
    List Segment × Notes :=
  match cs with
  | [] => ([], notes)
  | c :: rest =>
    if c = '\x7b' then
      match inside offset rest notes with
      | (some found, notes) =>
        let start := offset + 1 + byteSize (rest.take found.length)
        let (segments, notes) := segmentsFrom inside start (rest.drop found.length) notes
        (.rewritten found.text :: segments, notes)
      | (none, notes) =>
        match keptSpan rest with
        | some n =>
          let start := offset + 1 + byteSize (rest.take n)
          let notes := notes.tell (.keptSpan offset)
          let (segments, notes) := segmentsFrom inside start (rest.drop n) notes
          (.kept ('\x7b' :: rest.take n) :: segments, notes)
        | none =>
          let (segments, notes) := segmentsFrom inside (offset + 1) rest notes
          (.brace :: segments, notes)
    else
      let (segments, notes) := segmentsFrom inside (offset + c.utf8Size) rest notes
      (.verbatim c :: segments, notes)
termination_by cs.length

def convertWith (inside : Reader) (template : String) : Logged String :=
  let (segments, notes) := segmentsFrom inside 0 template.toList ⟨[], []⟩
  ⟨String.ofList (segments.flatMap Segment.written), notes.events.reverse⟩

def convert (template : String) : Logged String := convertWith (construct 0) template

end TitleTemplate.Legacy
