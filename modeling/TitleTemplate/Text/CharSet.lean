/-! Sets of characters, written as the code points at which membership changes, and the white space
among all characters. A set starts outside, so the first boundary opens the first range and the
second one closes it. -/
namespace TitleTemplate

structure CharSet where
  boundaries : List Nat

namespace CharSet

/-- Whether a code point is inside, after the boundaries that do not lie beyond it. -/
def crossed (inside : Bool) : List Nat → Nat → Bool
  | [], _ => inside
  | b :: bs, c => if c < b then inside else crossed (!inside) bs c

def contains (s : CharSet) (c : Char) : Bool := crossed false s.boundaries c.toNat

end CharSet

/-- The characters with the White_Space property. -/
def blankChars : CharSet := ⟨[
  0x9, 0xE, 0x20, 0x21, 0x85, 0x86, 0xA0, 0xA1, 0x1680, 0x1681, 0x2000, 0x200B, 0x2028, 0x202A,
  0x202F, 0x2030, 0x205F, 0x2060, 0x3000, 0x3001]⟩

def isBlank (c : Char) : Bool := blankChars.contains c

def skipBlanks (cs : List Char) : List Char := cs.dropWhile isBlank

def trimBlanks (cs : List Char) : List Char :=
  (skipBlanks (skipBlanks cs).reverse).reverse

end TitleTemplate
