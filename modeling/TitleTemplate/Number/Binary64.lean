/-! Binary floating-point numbers, held exactly: a sign, a significand and a power of two, with the
two infinities and one NaN beside them. Every operation is exact integer arithmetic followed by one
rounding to nearest, ties to even, so a law about it is a law about integers. -/
namespace TitleTemplate

/-- The widths of a binary format: bits of the significand, and the exponents of the last place
of its smallest and of its largest numbers. -/
structure Precision where
  bits : Nat
  least : Int
  greatest : Int

def Precision.double : Precision := ⟨53, -1074, 971⟩
def Precision.single : Precision := ⟨24, -149, 104⟩

inductive Binary64 where
  | nan
  | infinite (negative : Bool)
  | finite (negative : Bool) (significand : Nat) (exponent : Int)
  deriving DecidableEq, Inhabited

/-- The integer nearest to `num / den`; of two equally near ones the even one. -/
def nearestEven (num den : Nat) : Nat :=
  let q := num / den
  let r := num % den
  if 2 * r < den then q else if den < 2 * r then q + 1 else q + q % 2

def scaledPair (base m : Nat) (e : Int) : Nat × Nat :=
  if 0 ≤ e then (m * base.pow e.toNat, 1) else (m, base.pow (-e).toNat)

/-- The greatest `k` with `2 ^ k ≤ num / den`, for positive numbers. -/
def floorLog2 (num den : Nat) : Int :=
  let k : Int := (num.log2 : Int) - den.log2
  let below :=
    if 0 ≤ k then num < den * Nat.pow 2 k.toNat else num * Nat.pow 2 (-k).toNat < den
  if below then k - 1 else k

namespace Binary64

def zero (negative : Bool) : Binary64 := .finite negative 0 0

/-- The number of the format nearest to `num / den`, ties to even; past the largest, infinity. -/
def round (p : Precision) (negative : Bool) (num den : Nat) : Binary64 :=
  if num = 0 then zero negative
  else
    let e := max (floorLog2 num den - (p.bits - 1)) p.least
    let m := if 0 ≤ e then nearestEven num (den * Nat.pow 2 e.toNat)
      else nearestEven (num * Nat.pow 2 (-e).toNat) den
    let (m, e) :=
      if m = Nat.pow 2 p.bits then (Nat.pow 2 (p.bits - 1), e + 1) else (m, e)
    if m = 0 then zero negative
    else if p.greatest < e then .infinite negative
    else .finite negative m e

def ofNat (n : Nat) : Binary64 := round .double false n 1

def ofInt (n : Int) : Binary64 := round .double (n < 0) n.natAbs 1

def widen : Binary64 → Binary64
  | .finite s m e => let (num, den) := scaledPair 2 m e; round .double s num den
  | x => x

def isNaN : Binary64 → Bool
  | .nan => true
  | _ => false

def isFinite : Binary64 → Bool
  | .finite .. => true
  | _ => false

def isZero : Binary64 → Bool
  | .finite _ m _ => m == 0
  | _ => false

def abs : Binary64 → Binary64
  | .nan => .nan
  | .infinite _ => .infinite false
  | .finite _ m e => .finite false m e

def neg : Binary64 → Binary64
  | .nan => .nan
  | .infinite s => .infinite !s
  | .finite s m e => .finite (!s) m e

/-- A signed significand counted in units of `2 ^ unit`, for a `unit` no greater than `e`. -/
def inUnits (unit : Int) (negative : Bool) (m : Nat) (e : Int) : Int :=
  let n : Int := m * Nat.pow 2 (e - unit).toNat
  if negative then -n else n

/-- The numeric order; nothing compares with NaN, and the two zeros are equal. -/
def order : Binary64 → Binary64 → Option Ordering
  | .nan, _ | _, .nan => none
  | .infinite a, .infinite b =>
    some (if a = b then .eq else if a then .lt else .gt)
  | .infinite a, .finite .. => some (if a then .lt else .gt)
  | .finite .., .infinite b => some (if b then .gt else .lt)
  | .finite a m e, .finite b n f =>
    some (compare (inUnits (min e f) a m e) (inUnits (min e f) b n f))

def equal (x y : Binary64) : Bool := x.order y == some .eq
def less (x y : Binary64) : Bool := x.order y == some .lt
def atMost (x y : Binary64) : Bool := x.less y || x.equal y

def isNegative (x : Binary64) : Bool := x.less (zero false)

def mul : Binary64 → Binary64 → Binary64
  | .finite a m e, .finite b n f =>
    let (num, den) := scaledPair 2 (m * n) (e + f)
    round .double (a != b) num den
  | .nan, _ | _, .nan => .nan
  | .infinite a, .infinite b => .infinite (a != b)
  | .infinite a, .finite b n _ => if n = 0 then .nan else .infinite (a != b)
  | .finite a m _, .infinite b => if m = 0 then .nan else .infinite (a != b)

def div : Binary64 → Binary64 → Binary64
  | .finite a m e, .finite b n f =>
    if n = 0 then (if m = 0 then .nan else .infinite (a != b))
    else
      let (num, den) := scaledPair 2 m (e - f)
      round .double (a != b) num (den * n)
  | .nan, _ | _, .nan | .infinite _, .infinite _ => .nan
  | .infinite a, .finite b _ _ => .infinite (a != b)
  | .finite a _ _, .infinite b => zero (a != b)

/-- The magnitude without its fraction; infinities are taken to be `top`. -/
def whole (top : Nat) : Binary64 → Nat
  | .nan => 0
  | .infinite _ => top
  | .finite _ m e => let (num, den) := scaledPair 2 m e; num / den

/-- The integer a number is, when it has no fraction and its magnitude is below `2 ^ 63`. -/
def toInt? : Binary64 → Option Int
  | .finite s m e =>
    let (num, den) := scaledPair 2 m e
    if num % den = 0 ∧ num / den < Nat.pow 2 63 then
      some (if s then -((num / den : Nat) : Int) else (num / den : Nat))
    else none
  | _ => none

end Binary64
end TitleTemplate
