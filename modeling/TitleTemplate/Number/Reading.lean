import TitleTemplate.Number.Decimal

/-! Reading numbers: integers of a range, and decimal texts as the nearest binary number. -/
namespace TitleTemplate

def digit? (c : Char) : Option Nat :=
  if '0' ≤ c ∧ c ≤ '9' then some (c.toNat - '0'.toNat) else none

def isDigit (c : Char) : Bool := (digit? c).isSome

def ofDigits (cs : List Char) : Nat :=
  cs.foldl (fun n c => 10 * n + (digit? c).getD 0) 0

def readNat? (cs : List Char) : Option Nat :=
  if cs ≠ [] ∧ cs.all isDigit then some (ofDigits cs) else none

/-- Splits off a sign; `true` stands for minus. -/
def splitSign : List Char → Bool × List Char
  | '-' :: cs => (true, cs)
  | '+' :: cs => (false, cs)
  | cs => (false, cs)

/-- A natural number up to `top`, with an optional plus sign. -/
def readNatUpTo? (top : Nat) (cs : List Char) : Option Nat := do
  let digits := match cs with
    | '+' :: rest => rest
    | _ => cs
  let n ← readNat? digits
  if n ≤ top then some n else none

/-- An integer of the two's complement range of `bits` bits, with an optional sign. -/
def readInt? (bits : Nat) (cs : List Char) : Option Int := do
  let (negative, digits) := splitSign cs
  let n ← readNat? digits
  let i : Int := if negative then -n else n
  let bound : Int := Nat.pow 2 (bits - 1)
  if -bound ≤ i ∧ i < bound then some i else none

namespace Binary64

/-- The number nearest to a decimal. Decimals far out of range are settled by the place of
their leading digit, so that no huge power of ten is ever formed. -/
def ofDecimal (p : Precision) (negative : Bool) (d : Decimal) : Binary64 :=
  if d.significand = 0 then zero negative
  else if 400 < d.leading then .infinite negative
  else if d.leading < -400 then zero negative
  else
    let (num, den) := scaledPair 10 d.significand d.exponent
    round p negative num den

def readExponent? : List Char → Option Int
  | [] => some 0
  | c :: cs =>
    if c = 'e' ∨ c = 'E' then
      let (negative, digits) := splitSign cs
      (readNat? digits).map fun n => if negative then -(n : Int) else n
    else none

/-- Digits with an optional point among, before or after them, then an optional exponent. -/
def readDecimal? (cs : List Char) : Option Decimal := do
  let whole := cs.takeWhile isDigit
  let rest := cs.dropWhile isDigit
  let (fraction, rest) := match rest with
    | '.' :: after => (after.takeWhile isDigit, after.dropWhile isDigit)
    | _ => ([], rest)
  if whole = [] ∧ fraction = [] then none
  else do
    let exponent ← readExponent? rest
    some ⟨ofDigits (whole ++ fraction), exponent - fraction.length⟩

def asciiLower (c : Char) : Char := if 'A' ≤ c ∧ c ≤ 'Z' then Char.ofNat (c.toNat + 32) else c

/-- A decimal, or one of the words `inf`, `infinity` and `nan` in any case, after an optional
sign. -/
def read? (p : Precision) (cs : List Char) : Option Binary64 :=
  let (negative, body) := splitSign cs
  let word := body.map asciiLower
  if word = "nan".toList then some .nan
  else if word = "inf".toList ∨ word = "infinity".toList then some (.infinite negative)
  else (readDecimal? body).map (ofDecimal p negative)

end Binary64
end TitleTemplate
