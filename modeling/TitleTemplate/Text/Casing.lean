import TitleTemplate.Text.CharSet
import TitleTemplate.Text.CaseTable

/-! Upper, lower and title case of texts in all scripts. One character may become several, and a
capital sigma at the end of a word becomes the final form of the small one. -/
namespace TitleTemplate

/-- The image of a code point under the first run that holds it. -/
def CaseRun.find? : List CaseRun → Nat → Option Nat
  | [], _ => none
  | r :: rs, c =>
    if c < r.first then none
    else if c ≤ r.last ∧ (c - r.first) % r.step = 0 then some (c + r.shift).toNat
    else find? rs c

def upperChar (c : Char) : List Char :=
  match upperExpansions.lookup c.toNat with
  | some expansion => expansion.map Char.ofNat
  | none => [((CaseRun.find? upperRuns c.toNat).map Char.ofNat).getD c]

/-- The dotted capital I alone has a lower-case form of two characters. -/
def lowerChar (c : Char) : List Char :=
  if c = '\u0130' then ['i', '\u0307']
  else [((CaseRun.find? lowerRuns c.toNat).map Char.ofNat).getD c]

def isCased (c : Char) : Bool := casedChars.contains c
def isCaseIgnorable (c : Char) : Bool := caseIgnorableChars.contains c

/-- Whether the next character that matters for case has one. -/
def startsCased (cs : List Char) : Bool :=
  ((cs.dropWhile isCaseIgnorable).head?.map isCased).getD false

/-- Lower case of a text. The flag says whether the last character that matters for case has one:
a sigma after such a character and before none ends its word. -/
def lowerFrom (afterCased : Bool) : List Char → List Char
  | [] => []
  | c :: cs =>
    let form :=
      if c = '\u03A3' then [if afterCased && !startsCased cs then '\u03C2' else '\u03C3']
      else lowerChar c
    form ++ lowerFrom (if isCaseIgnorable c then afterCased else isCased c) cs

def lowerText (cs : List Char) : List Char := lowerFrom false cs

def upperText (cs : List Char) : List Char := cs.flatMap upperChar

def isAsciiPunctuation (c : Char) : Bool :=
  ('!' ≤ c && c ≤ '/') || (':' ≤ c && c ≤ '@') || ('[' ≤ c && c ≤ '\x60') || ('\x7b' ≤ c && c ≤ '~')

/-- White space and punctuation end a word; an apostrophe is part of it. -/
def endsWord (c : Char) : Bool := isBlank c || (isAsciiPunctuation c && c ≠ '\'')

/-- The first character of every word in upper case, the others in lower case, each character on
its own. The flag says whether a word may begin. -/
def titleFrom (beginning : Bool) : List Char → List Char
  | [] => []
  | c :: cs =>
    if endsWord c then c :: titleFrom true cs
    else if beginning then upperChar c ++ titleFrom false cs
    else lowerChar c ++ titleFrom false cs

def titleText (cs : List Char) : List Char := titleFrom true cs

end TitleTemplate
