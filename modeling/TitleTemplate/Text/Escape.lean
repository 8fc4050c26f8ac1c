/-! Backslash escapes inside expressions. A backslash stands before a punctuation character for that
character, before `n`, `r` or `t` for a control character, and before `u` and four characters that
spell a 16-bit unit; two units that form a surrogate pair stand for one character. -/
namespace TitleTemplate

inductive EscapeFault where
  /-- An unknown escape, a backslash at the end, or a surrogate without its other half. -/
  | malformed
  /-- The four characters after `u` spell no number. -/
  | badUnit
  deriving DecidableEq

def hexDigit? (c : Char) : Option Nat :=
  if '0' ≤ c ∧ c ≤ '9' then some (c.toNat - '0'.toNat)
  else if 'a' ≤ c ∧ c ≤ 'f' then some (c.toNat - 'a'.toNat + 10)
  else if 'A' ≤ c ∧ c ≤ 'F' then some (c.toNat - 'A'.toNat + 10)
  else none

def hexFrom? (n : Nat) : List Char → Option Nat
  | [] => some n
  | c :: cs => do hexFrom? (16 * n + (← hexDigit? c)) cs

/-- A 16-bit unit from four characters. A plus sign may take the place of the first digit. -/
def hexUnit? (a b c d : Char) : Option Nat :=
  if a = '+' then hexFrom? 0 [b, c, d] else hexFrom? 0 [a, b, c, d]

def isSurrogate (unit : Nat) : Bool := 0xD800 ≤ unit && unit ≤ 0xDFFF

/-- The character two 16-bit units stand for, when they are a high and a low surrogate. -/
def surrogatePair? (high low : Nat) : Option Char :=
  if 0xD800 ≤ high ∧ high < 0xDC00 ∧ 0xDC00 ≤ low ∧ low ≤ 0xDFFF then
    some (Char.ofNat (0x10000 + (high - 0xD800) * 0x400 + (low - 0xDC00)))
  else none

/-- What a backslash and a character other than `u` stand for. -/
def escaped? (c : Char) : Option Char :=
  if c ∈ ['"', '\\', '/', '\'', '\x7b', '\x7d', '|', ',', '(', ')', ' '] then some c
  else if c = 'n' then some '\n'
  else if c = 'r' then some '\r'
  else if c = 't' then some '\t'
  else none

/-- The text that `cs` spells; `pending` is a surrogate that waits for its other half. -/
def unescapeFrom (pending : Option Nat) : List Char → Except EscapeFault (List Char)
  | [] => if pending.isNone then .ok [] else .error .malformed
  | '\\' :: 'u' :: a :: b :: c :: d :: rest =>
    match hexUnit? a b c d with
    | none => .error .badUnit
    | some unit =>
      match pending, isSurrogate unit with
      | none, false => do return Char.ofNat unit :: (← unescapeFrom none rest)
      | none, true => unescapeFrom (some unit) rest
      | some _, false => .error .malformed
      | some high, true =>
        match surrogatePair? high unit with
        | some char => do return char :: (← unescapeFrom none rest)
        | none => .error .malformed
  | '\\' :: 'u' :: _ => .error .badUnit
  | ['\\'] => .error .malformed
  | '\\' :: c :: rest =>
    match escaped? c, pending with
    | some char, none => do return char :: (← unescapeFrom none rest)
    | _, _ => .error .malformed
  | c :: rest =>
    match pending with
    | none => do return c :: (← unescapeFrom none rest)
    | some _ => .error .malformed

def unescape (cs : List Char) : Except EscapeFault (List Char) := unescapeFrom none cs

def quoteChar (c : Char) : List Char :=
  if c = '\'' ∨ c = '\\' ∨ c = '\x7d' then ['\\', c]
  else if c = '\n' then ['\\', 'n']
  else if c = '\r' then ['\\', 'r']
  else if c = '\t' then ['\\', 't']
  else [c]

/-- A text in single quotes, so that reading it as an expression gives the text back. -/
def quote (cs : List Char) : List Char := '\'' :: (cs.flatMap quoteChar ++ ['\''])

end TitleTemplate
