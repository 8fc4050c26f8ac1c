import TitleTemplate.Number.Reading
import TitleTemplate.Text.CharSet

/-! The values templates work on. Looking something up never fails: what is not there is
`undefined`, which is told apart from the `none` of the data but renders the same way. Maps are lists
of entries with ascending keys; keys are ordered by code points, which is also the order of their
UTF-8 bytes. -/
namespace TitleTemplate.Entries
variable {α β : Type}

def find? (key : String) : List (String × α) → Option α
  | [] => none
  | (k, v) :: rest => if k = key then some v else find? key rest

def insert (key : String) (value : α) : List (String × α) → List (String × α)
  | [] => [(key, value)]
  | (k, v) :: rest =>
    if key < k then (key, value) :: (k, v) :: rest
    else if key = k then (key, value) :: rest
    else (k, v) :: insert key value rest

/-- Of several values under one key the last one stays. -/
def ofList (entries : List (String × α)) : List (String × α) :=
  entries.foldl (fun m e => insert e.1 e.2 m) []

end TitleTemplate.Entries

namespace TitleTemplate

inductive Value where
  | undefined
  | none
  | bool (b : Bool)
  | int (n : Int)
  | float (x : Binary64)
  | str (s : String)
  | seq (items : List Value)
  | map (entries : List (String × Value))
  deriving Inhabited

inductive Kind where
  | undefined
  | none
  | bool
  | number
  | string
  | sequence
  | map
  deriving DecidableEq

def Kind.name : Kind → String
  | .undefined => "undefined"
  | .none => "none"
  | .bool => "bool"
  | .number => "number"
  | .string => "string"
  | .sequence => "sequence"
  | .map => "map"

namespace Value

/-- Integers from `2 ^ 63` on are kept as the nearest floating-point number. -/
def ofInt (n : Int) : Value :=
  if n < Nat.pow 2 63 then .int n else .float (Binary64.ofInt n)

def ofNat (n : Nat) : Value := ofInt n

def ofChars (cs : List Char) : Value := .str (String.ofList cs)

def kind : Value → Kind
  | .undefined => .undefined
  | .none => .none
  | .bool _ => .bool
  | .int _ | .float _ => .number
  | .str _ => .string
  | .seq _ => .sequence
  | .map _ => .map

def isUndefined : Value → Bool
  | .undefined => true
  | _ => false

def isNumber : Value → Bool
  | .int _ | .float _ => true
  | _ => false

/-- Empty texts, sequences and maps, zero, NaN, and what is absent are not true. -/
def isTruthy : Value → Bool
  | .undefined | .none => false
  | .bool b => b
  | .int n => n ≠ 0
  | .float x => !x.isZero && !x.isNaN
  | .str s => s ≠ ""
  | .seq items => !items.isEmpty
  | .map entries => !entries.isEmpty

/-- The number a value stands for. Texts are read as numbers; nothing stands for NaN. -/
def number? : Value → Option Binary64
  | .int n => some (Binary64.ofInt n)
  | .float x => if x.isNaN then Option.none else some x
  | .str s => (Binary64.read? .double (trimBlanks s.toList)).filter (!·.isNaN)
  | _ => Option.none

def integer? : Value → Option Int
  | .int n => some n
  | .float x => x.toInt?
  | _ => Option.none

/-- The text a value renders as. Sequences and maps have none of their own. -/
def display : Value → String
  | .undefined | .none | .seq _ | .map _ => ""
  | .bool b => if b then "true" else "false"
  | .int n => toString n
  | .float x => NumberLayout.plain.text x
  | .str s => s

def scalarText? : Value → Option String
  | v@(.bool _) | v@(.int _) | v@(.float _) | v@(.str _) => some v.display
  | _ => Option.none

def items? : Value → Option (List Value)
  | .seq items => some items
  | _ => Option.none

/-- Characters of a text, items of a sequence, entries of a map. -/
def length? : Value → Option Nat
  | .str s => some s.length
  | .seq items => some items.length
  | .map entries => some entries.length
  | _ => Option.none

def child (key : String) : Value → Value
  | .map entries => (Entries.find? key entries).getD .undefined
  | .seq items =>
    ((readNatUpTo? (Nat.pow 2 64 - 1) key.toList).bind (items[·]?)).getD .undefined
  | _ => .undefined

def lookup (v : Value) (path : List String) : Value :=
  path.foldl (fun v key => v.child key) v

end Value
end TitleTemplate
