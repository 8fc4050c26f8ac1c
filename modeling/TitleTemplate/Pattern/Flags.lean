import TitleTemplate.Text.CharSet

/-! The flags of a pattern. They are set for the rest of a group, and three of them decide what the
pattern may hold; the others only bear on what it matches. -/
namespace TitleTemplate

structure PatternFlags where
  ignoresCase : Bool
  isUnicode : Bool
  /-- Whether blanks and comments between the parts of a pattern are left out. -/
  skipsBlanks : Bool

/-- What follows blanks and comments. The flag says whether a comment is open, which lasts to the
end of its line. -/
def skipComments (open? : Bool) : List Char → List Char
  | [] => []
  | c :: cs =>
    if open? then skipComments (c ≠ '\n') cs
    else if isBlank c then skipComments false cs
    else if c = '#' then skipComments true cs
    else c :: cs

namespace PatternFlags

def initial : PatternFlags := ⟨false, true, false⟩

def skip (flags : PatternFlags) (cs : List Char) : List Char :=
  if flags.skipsBlanks then skipComments false cs else cs

def next? (flags : PatternFlags) (cs : List Char) : Option Char :=
  if flags.skipsBlanks then
    match skipBlanks cs with
    | '#' :: comment => (skipBlanks comment).head?.or cs.head?
    | rest => rest.head?.or cs.head?
  else cs.head?

def letters : List Char := ['i', 'm', 's', 'U', 'u', 'R', 'x']

def set (flags : PatternFlags) (letter : Char) (on : Bool) : PatternFlags :=
  if letter = 'i' then { flags with ignoresCase := on }
  else if letter = 'u' then { flags with isUnicode := on }
  else if letter = 'x' then { flags with skipsBlanks := on }
  else flags

/-- Flags up to a colon or a closing parenthesis. Those behind a hyphen are taken away, and nothing
is named twice. The first argument holds what has been named, the last one first. -/
def read? (named : List Char) (flags : PatternFlags) :
    List Char → Option (List Char × PatternFlags × List Char)
  | [] => none
  | c :: cs =>
    if c = ':' ∨ c = ')' then
      if named.head? = some '-' then none else some (named, flags, c :: cs)
    else if c ∈ named then none
    else if c = '-' then read? (c :: named) flags cs
    else if c ∈ letters then read? (c :: named) (flags.set c ('-' ∉ named)) cs
    else none

/-- Whether a character can stand for itself, or a byte that was written by its number. Case is not
known of the characters of all scripts, so that none of them can ignore it; and a byte beyond ASCII
is no text on its own. -/
def admits (flags : PatternFlags) (c : Char) (isByte : Bool) : Bool :=
  if flags.isUnicode then !flags.ignoresCase else !isByte || c.toNat < 128

end PatternFlags
end TitleTemplate
