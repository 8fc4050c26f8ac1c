import TitleTemplate.Json.Basic
import TitleTemplate.Text.Escape

/-! Reading JSON text. Numbers with a point or an exponent are read into a 64-bit significand and a
power of ten, which are then multiplied or divided as floating-point numbers; digits that no longer
fit the significand count as zeros. -/
namespace TitleTemplate.Json

def isSpace (c : Char) : Bool := c = ' ' || c = '\t' || c = '\n' || c = '\r'

def skipSpace (cs : List Char) : List Char := cs.dropWhile isSpace

/-- Takes digits into a significand as long as it stays below `2 ^ 64`. Returns what is left. -/
def absorb (significand : Nat) : List Char → Nat × List Char
  | [] => (significand, [])
  | c :: cs =>
    let next := 10 * significand + (digit? c).getD 0
    if next < Nat.pow 2 64 then absorb next cs else (significand, c :: cs)

def powerOfTen (n : Nat) : Binary64 := Binary64.ofDecimal .double false ⟨1, n⟩

/-- Multiplies or divides by a power of ten, far negative powers in steps of `10 ^ 308`, of which
three leave nothing of any significand. A result out of range is refused. -/
def scale? (steps : Nat) (f : Binary64) (exponent : Int) : Option Binary64 :=
  if exponent.natAbs ≤ 308 then
    if 0 ≤ exponent then some (f.mul (powerOfTen exponent.natAbs)) |>.filter Binary64.isFinite
    else some (f.div (powerOfTen exponent.natAbs))
  else if f.isZero then some f
  else if 0 ≤ exponent then none
  else
    match steps with
    | 0 => some f
    | steps + 1 => scale? steps (f.div (powerOfTen 308)) (exponent + 308)

/-- An exponent that does not fit 32 bits leaves zero, or is refused. -/
def fromParts? (significand : Nat) (shift exponent : Int) : Option Binary64 :=
  if exponent.natAbs < Nat.pow 2 31 then
    scale? 3 (Binary64.ofNat significand) (shift + exponent)
  else if significand = 0 ∨ exponent < 0 then some (Binary64.zero false)
  else none

/-- The digits of a number, as they stand in the text. -/
structure Numeral where
  negative : Bool
  whole : List Char
  fraction : Option (List Char)
  exponent : Option Int

def readDigits? (cs : List Char) : Option (List Char × List Char) :=
  let digits := cs.takeWhile isDigit
  if digits = [] then none else some (digits, cs.dropWhile isDigit)

def readNumeral? (cs : List Char) : Option (Numeral × List Char) := do
  let (negative, cs) := match cs with
    | '-' :: rest => (true, rest)
    | _ => (false, cs)
  let (whole, cs) ← readDigits? cs
  if whole.head? = some '0' ∧ whole.length ≠ 1 then none
  else do
    let (fraction, cs) ← match cs with
      | '.' :: rest => (readDigits? rest).map fun (digits, rest) => (some digits, rest)
      | _ => some (none, cs)
    let (exponent, cs) ← match cs with
      | c :: rest =>
        if c = 'e' ∨ c = 'E' then
          let (minus, rest) := splitSign rest
          (readDigits? rest).map fun (digits, rest) =>
            (some (if minus then -(ofDigits digits : Int) else ofDigits digits), rest)
        else some (none, cs)
      | [] => some (none, cs)
    some (⟨negative, whole, fraction, exponent⟩, cs)

/-- Whole numbers stay integers while they fit 64 bits; minus zero and all else is real. -/
def Numeral.value? (n : Numeral) : Option Number :=
  let sign (x : Binary64) : Number := .real (if n.negative then x.neg else x)
  let (significand, left) := absorb 0 n.whole
  match n.fraction, n.exponent, left with
  | none, none, [] =>
    if !n.negative then some (.integer significand)
    else if significand = 0 ∨ Nat.pow 2 63 < significand then
      some (sign (Binary64.ofNat significand))
    else some (.integer (-significand))
  | fraction, exponent, _ =>
    let digits := fraction.getD []
    let (significand, rest) := absorb significand digits
    let shift : Int := left.length - (digits.length - rest.length : Nat)
    (fromParts? significand shift (exponent.getD 0)).map sign

/-- A 16-bit unit from the four characters after `u`. -/
def readUnit? : List Char → Option (Nat × List Char)
  | a :: b :: c :: d :: rest => (hexFrom? 0 [a, b, c, d]).map (·, rest)
  | _ => none

/-- The rest of a string after its opening quote. The first argument bounds the characters read,
the second holds those read so far, latest first. -/
def readString? : Nat → List Char → List Char → Option (String × List Char)
  | 0, _, _ => none
  | fuel + 1, read, cs =>
    match cs with
    | [] => none
    | '"' :: rest => some (String.ofList read.reverse, rest)
    | '\\' :: 'u' :: rest => do
      let (unit, rest) ← readUnit? rest
      if !isSurrogate unit then readString? fuel (Char.ofNat unit :: read) rest
      else
        match rest with
        | '\\' :: 'u' :: rest => do
          let (low, rest) ← readUnit? rest
          let c ← surrogatePair? unit low
          readString? fuel (c :: read) rest
        | _ => none
    | '\\' :: c :: rest =>
      match c with
      | '"' | '\\' | '/' => readString? fuel (c :: read) rest
      | 'b' => readString? fuel ('\x08' :: read) rest
      | 'f' => readString? fuel ('\x0c' :: read) rest
      | 'n' => readString? fuel ('\n' :: read) rest
      | 'r' => readString? fuel ('\r' :: read) rest
      | 't' => readString? fuel ('\t' :: read) rest
      | _ => none
    | c :: rest => if c.toNat < 0x20 then none else readString? fuel (c :: read) rest

mutual

/-- A document at the beginning of a text. The first argument bounds the characters read, the
second is how many containers may still be opened. -/
def readFrom? : Nat → Nat → List Char → Option (Json × List Char)
  | 0, _, _ => none
  | fuel + 1, levels, cs =>
    match skipSpace cs with
    | 'n' :: 'u' :: 'l' :: 'l' :: rest => some (.null, rest)
    | 't' :: 'r' :: 'u' :: 'e' :: rest => some (.bool true, rest)
    | 'f' :: 'a' :: 'l' :: 's' :: 'e' :: rest => some (.bool false, rest)
    | '"' :: rest => (readString? fuel [] rest).map fun (s, rest) => (.str s, rest)
    | '[' :: rest =>
      match levels with
      | 0 => none
      | levels + 1 =>
        match skipSpace rest with
        | ']' :: rest => some (.array [], rest)
        | rest => readItems? fuel levels [] rest
    | '\x7b' :: rest =>
      match levels with
      | 0 => none
      | levels + 1 =>
        match skipSpace rest with
        | '\x7d' :: rest => some (.object [], rest)
        | rest => readMembers? fuel levels [] rest
    | rest => do
      let (numeral, rest) ← readNumeral? rest
      some (.number (← numeral.value?), rest)

/-- One item of an array and the items after it; those before it are given latest first. -/
def readItems? : Nat → Nat → List Json → List Char → Option (Json × List Char)
  | 0, _, _, _ => none
  | fuel + 1, levels, read, cs => do
    let (item, rest) ← readFrom? fuel levels cs
    match skipSpace rest with
    | ',' :: rest => readItems? fuel levels (item :: read) rest
    | ']' :: rest => some (.array (item :: read).reverse, rest)
    | _ => none

/-- One member of an object and the members after it; those before it are given latest first. -/
def readMembers? : Nat → Nat → List (String × Json) → List Char → Option (Json × List Char)
  | 0, _, _, _ => none
  | fuel + 1, levels, read, cs =>
    match skipSpace cs with
    | '"' :: rest => do
      let (key, rest) ← readString? fuel [] rest
      match skipSpace rest with
      | ':' :: rest => do
        let (value, rest) ← readFrom? fuel levels rest
        match skipSpace rest with
        | ',' :: rest => readMembers? fuel levels ((key, value) :: read) rest
        | '\x7d' :: rest => some (.object ((key, value) :: read).reverse, rest)
        | _ => none
      | _ => none
    | _ => none

end

def maxLevels : Nat := 127

def parse? (levels : Nat) (text : String) : Option Json := do
  let cs := text.toList
  let (j, rest) ← readFrom? (2 * cs.length + 2) levels cs
  if skipSpace rest = [] then some j else none

end TitleTemplate.Json
