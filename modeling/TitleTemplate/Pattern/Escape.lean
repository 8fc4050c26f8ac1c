import TitleTemplate.Pattern.Flags
import TitleTemplate.Text.Escape

/-! Escapes in patterns: characters by name or by number, marks that stand for themselves, classes
of ASCII characters, and places in a text. -/
namespace TitleTemplate

inductive PatternAtom where
  | literal (c : Char) (isByte : Bool)
  /-- Digits, blanks or the characters of words, of ASCII alone. -/
  | asciiClass
  | anchor

namespace PatternAtom

def readHex? (flags : PatternFlags) : Nat → Nat → List Char → Option (Nat × List Char)
  | 0, code, cs => some (code, cs)
  | _ + 1, _, [] => none
  | count + 1, code, c :: cs => do
    readHex? flags count (16 * code + (← hexDigit? c)) (flags.skip cs)

/-- How many digits number a character after a letter. -/
def hexWidth? (letter : Char) : Option Nat :=
  [('x', 2), ('u', 4), ('U', 8)].lookup letter

def control? (letter : Char) : Option Char :=
  [('a', '\x07'), ('f', '\x0c'), ('n', '\n'), ('r', '\x0d'), ('t', '\t'), ('v', '\x0b')].lookup
    letter

/-- Whether a backslash may stand before a character that means nothing else then. -/
def isEscapable (c : Char) : Bool := c.toNat < 128 && !c.isAlphanum && c ∉ ['<', '>']

/-- What a backslash makes of the characters after it. The words and classes of all scripts are not
known here, so that what is about them is read only where the pattern is about ASCII. -/
def readEscape? (flags : PatternFlags) : List Char → Option (PatternAtom × List Char)
  | [] => none
  | c :: cs =>
    match hexWidth? c, control? c with
    | some width, _ => do
      let (code, rest) ← readHex? flags width 0 (flags.skip cs)
      if code.isValidChar then some (literal (Char.ofNat code) (c = 'x'), rest) else none
    | _, some control => some (literal control false, cs)
    | none, none =>
      if c ∈ ['d', 's', 'w'] then if flags.isUnicode then none else some (asciiClass, cs)
      else if c ∈ ['b', 'B', '<', '>'] then if flags.isUnicode then none else some (anchor, cs)
      else if c ∈ ['A', 'z'] then some (anchor, cs)
      else if isEscapable c then some (literal c false, cs)
      else none

def isAdmitted (flags : PatternFlags) : PatternAtom → Bool
  | literal c isByte => flags.admits c isByte
  | asciiClass | anchor => true

end PatternAtom
end TitleTemplate
