import TitleTemplate.Value.Basic

/-! Numbers as people read them: sizes with a unit, durations, and digits in groups of three. -/
namespace TitleTemplate

/-- Divides by the base once for every larger unit, as long as the number reaches it. -/
def scaleUnits (base : Binary64) (x : Binary64) (unit : String) : List String → Binary64 × String
  | [] => (x, unit)
  | next :: rest => if base.atMost x then scaleUnits base (x.div base) next rest else (x, unit)

def dropEnd (c : Char) (cs : List Char) : List Char := (cs.reverse.dropWhile (· = c)).reverse

/-- Two places without trailing zeros. The sign of a number that rounds to zero is not shown. -/
def sizeText (base : Nat) (x : Binary64) : Option String :=
  match scaleUnits (Binary64.ofNat base) x.abs "B" ["KB", "MB", "GB", "TB", "PB"] with
  | (.finite _ m e, unit) =>
    let (num, den) := scaledPair 2 m e
    let digits := dropEnd '.' (dropEnd '0' (Decimal.fixed 2 num den))
    let sign := if x.isNegative ∧ digits ≠ ['0'] then ['-'] else []
    some (String.ofList (sign ++ digits ++ ' ' :: unit.toList))
  | _ => none

def twoDigits (n : Nat) : List Char :=
  let digits := Nat.toDigits 10 n
  List.replicate (2 - digits.length) '0' ++ digits

def durationText (x : Binary64) : Option String :=
  if !x.isFinite || x.isNegative then none
  else
    let top := Nat.pow 2 64 - 1
    let total := min (x.whole top) top
    some (String.ofList (twoDigits (total / 3600) ++ ':' :: twoDigits (total % 3600 / 60) ++
      ':' :: twoDigits (total % 60)))

def groupThousands : List Char → List Char
  | [] => []
  | c :: cs =>
    if cs ≠ [] ∧ cs.length % 3 = 0 then c :: ',' :: groupThousands cs else c :: groupThousands cs

def groupNumber (cs : List Char) : List Char :=
  let (sign, cs) := match cs with
    | '-' :: rest => (['-'], rest)
    | _ => ([], cs)
  sign ++ groupThousands (cs.takeWhile (· ≠ '.')) ++ cs.dropWhile (· ≠ '.')

def thousandsText (v : Value) : Option String :=
  match v.number? with
  | none => none
  | some x =>
    if !x.isFinite then none
    else
      let digits := match v.integer? with
        | some i => Value.display (.int i)
        | none => Value.display (.float x)
      some (String.ofList (groupNumber digits.toList))

end TitleTemplate
