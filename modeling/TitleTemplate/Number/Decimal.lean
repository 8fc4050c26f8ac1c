import TitleTemplate.Number.Binary64

/-! Decimal numbers and their texts. A finite binary number is written with the fewest digits that
read back as the same number, and among those with the digits nearest to it; a notation says how
the digits are laid out. -/
namespace TitleTemplate

/-- `significand * 10 ^ exponent`. -/
structure Decimal where
  significand : Nat
  exponent : Int
  deriving DecidableEq

def digitCount (n : Nat) : Nat := (Nat.toDigits 10 n).length

/-- Which way a number exactly between two shortest candidates goes. -/
inductive Tie where
  | up
  | toEven
  deriving DecidableEq

namespace Decimal

/-- Drops trailing zeros of the significand. The first argument bounds how many there are. -/
def trimZeros : Nat → Decimal → Decimal
  | 0, d => d
  | n + 1, d =>
    if d.significand ≠ 0 ∧ d.significand % 10 = 0 then
      trimZeros n ⟨d.significand / 10, d.exponent + 1⟩
    else d

/-- The exponent of the leading digit of `num / den`, for positive numbers. -/
def leadingExponent (num den : Nat) : Int :=
  if den ≤ num then (digitCount (num / den) : Int) - 1
  else -(digitCount ((den + num - 1) / num - 1) : Int)

/-- The reals that round to one binary number, counted in parts of `den`. The ends belong to the
interval when `closed`. -/
structure Basin where
  low : Nat
  centre : Nat
  high : Nat
  den : Nat
  closed : Bool

/-- Below a power of two the neighbours lie half as far apart as above it. -/
def Basin.of (p : Precision) (m : Nat) (e : Int) : Basin :=
  let low := if m = Nat.pow 2 (p.bits - 1) ∧ p.least < e then 4 * m - 1 else 4 * m - 2
  let (scale, den) := scaledPair 2 1 (e - 2)
  ⟨low * scale, 4 * m * scale, (4 * m + 2) * scale, den, m % 2 == 0⟩

/-- The point of the decimal grid `10 ^ unit` in the basin that is nearest to its centre. -/
def Basin.onGrid? (b : Basin) (tie : Tie) (unit : Int) : Option Nat :=
  let scale := if 0 ≤ unit then 1 else Nat.pow 10 (-unit).toNat
  let den := if 0 ≤ unit then b.den * Nat.pow 10 unit.toNat else b.den
  let inside (c : Nat) : Bool :=
    if b.closed then b.low * scale ≤ c * den && c * den ≤ b.high * scale
    else b.low * scale < c * den && c * den < b.high * scale
  let below := b.centre * scale / den
  let above := if b.centre * scale % den = 0 then below else below + 1
  match inside below, inside above with
  | false, false => none
  | true, false => some below
  | false, true => some above
  | true, true =>
    match compare (2 * (b.centre * scale)) ((below + above) * den) with
    | .lt => some below
    | .gt => some above
    | .eq =>
      match tie with
      | .up => some above
      | .toEven => some (if below % 2 = 0 then below else above)

/-- Tries one digit, two, and so on; the argument says how many more counts of digits remain. -/
def Basin.search (b : Basin) (tie : Tie) : Nat → Int → Decimal
  | 0, unit => ⟨b.centre / b.den, unit⟩
  | n + 1, unit =>
    match b.onGrid? tie unit with
    | some c => trimZeros (digitCount c) ⟨c, unit⟩
    | none => b.search tie n (unit - 1)

/-- The shortest decimal that rounds to the number `m * 2 ^ e`. Seventeen digits always do. -/
def shortest (tie : Tie) (m : Nat) (e : Int) : Decimal :=
  if m = 0 then ⟨0, 0⟩
  else
    let b := Basin.of .double m e
    b.search tie 18 (leadingExponent b.centre b.den)

def leading (d : Decimal) : Int := (digitCount d.significand : Int) - 1 + d.exponent

/-- Digits with a point before the last `places` of them, filled up with zeros on the left. -/
def pointed (places n : Nat) : List Char :=
  let digits := Nat.toDigits 10 n
  let digits := List.replicate (places + 1 - digits.length) '0' ++ digits
  digits.take (digits.length - places) ++ '.' :: digits.drop (digits.length - places)

/-- Positional notation: no exponent, and a point only before a fraction. -/
def positional (d : Decimal) : List Char :=
  if 0 ≤ d.exponent then
    if d.significand = 0 then ['0']
    else Nat.toDigits 10 d.significand ++ List.replicate d.exponent.toNat '0'
  else pointed (-d.exponent).toNat d.significand

def scientific (plus : Bool) (d : Decimal) : List Char :=
  let digits := Nat.toDigits 10 d.significand
  let fraction := match digits.drop 1 with
    | [] => []
    | rest => '.' :: rest
  let sign := if d.leading < 0 then ['-'] else if plus then ['+'] else []
  digits.take 1 ++ fraction ++ 'e' :: sign ++ Nat.toDigits 10 d.leading.natAbs

/-- `num / den` with a fixed number of places, the last one rounded to nearest, ties to even. -/
def fixed (places num den : Nat) : List Char :=
  pointed places (nearestEven (num * Nat.pow 10 places) den)

end Decimal

structure NumberLayout where
  tie : Tie
  /-- Leading exponents that are written positionally; outside of them an exponent is written. -/
  positional : Int → Bool
  /-- Whether a whole number keeps `.0`. -/
  pointZero : Bool
  /-- Whether a positive exponent is written with `+`. -/
  plus : Bool

namespace NumberLayout

def plain : NumberLayout := ⟨.up, fun _ => true, false, false⟩

/-- The text of numbers in dumps: positional from `1e-4` up to `1e16`. -/
def dumped : NumberLayout := ⟨.up, fun e => -4 ≤ e && e < 16, true, false⟩

/-- The text of numbers in JSON: positional from `1e-5` up to `1e16`. -/
def json : NumberLayout := ⟨.toEven, fun e => -5 ≤ e && e < 16, true, true⟩

def magnitude (n : NumberLayout) (m : Nat) (e : Int) : List Char :=
  let d := Decimal.shortest n.tie m e
  if n.positional d.leading then
    d.positional ++ (if n.pointZero ∧ 0 ≤ d.exponent then ['.', '0'] else [])
  else d.scientific n.plus

def text (n : NumberLayout) : Binary64 → String
  | .nan => "NaN"
  | .infinite negative => if negative then "-inf" else "inf"
  | .finite negative m e => String.ofList ((if negative then ['-'] else []) ++ n.magnitude m e)

end NumberLayout
end TitleTemplate
