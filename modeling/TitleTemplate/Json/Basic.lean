import TitleTemplate.Value.Basic

/-! JSON documents, and the values they stand for. A document keeps its object entries as they were
written; its tree has every key once, in ascending order. -/
namespace TitleTemplate

inductive Json.Number where
  | integer (n : Int)
  | real (x : Binary64)
  deriving DecidableEq, Inhabited

inductive Json where
  | null
  | bool (b : Bool)
  | number (n : Json.Number)
  | str (s : String)
  | array (items : List Json)
  | object (entries : List (String × Json))
  deriving Inhabited

namespace Json

/-- A number as an integer of 64 bits with a sign, if it is not too large for one. -/
def Number.signed? : Number → Option Int
  | .integer n => if n < Nat.pow 2 63 then some n else none
  | .real _ => none

def Number.unsigned? : Number → Option Nat
  | .integer n => if 0 ≤ n then some n.toNat else none
  | .real _ => none

def Number.nearest : Number → Binary64
  | .integer n => Binary64.ofInt n
  | .real x => x

/-- The value of a number in a tree: the first of its forms that there is. -/
def Number.toValue (n : Number) : Value :=
  match n.signed?, n.unsigned? with
  | some i, _ => .int i
  | none, some u => Value.ofNat u
  | none, none => .float n.nearest

def Number.read : Number → Value
  | .integer n => if n < 0 then .int n else Value.ofNat n.toNat
  | .real x => .float x

def ofFloat (x : Binary64) : Json := if x.isFinite then .number (.real x) else .null

mutual

/-- The tree of a document: of several entries with one key the last stays. -/
def tree : Json → Json
  | .array items => .array (treeItems items)
  | .object entries => .object (Entries.ofList (treeEntries entries))
  | j => j

def treeItems : List Json → List Json
  | [] => []
  | j :: js => j.tree :: treeItems js

def treeEntries : List (String × Json) → List (String × Json)
  | [] => []
  | (k, j) :: es => (k, j.tree) :: treeEntries es

end

mutual

def read : Json → Value
  | .null => .none
  | .bool b => .bool b
  | .number n => n.read
  | .str s => .str s
  | .array items => .seq (readItems items)
  | .object entries => .map (Entries.ofList (readEntries entries))

def readItems : List Json → List Value
  | [] => []
  | j :: js => j.read :: readItems js

def readEntries : List (String × Json) → List (String × Value)
  | [] => []
  | (k, j) :: es => (k, j.read) :: readEntries es

end

mutual

/-- The value of a tree, whose keys are in order already. -/
def toValue : Json → Value
  | .null => .none
  | .bool b => .bool b
  | .number n => n.toValue
  | .str s => .str s
  | .array items => .seq (toValueItems items)
  | .object entries => .map (toValueEntries entries)

def toValueItems : List Json → List Value
  | [] => []
  | j :: js => j.toValue :: toValueItems js

def toValueEntries : List (String × Json) → List (String × Value)
  | [] => []
  | (k, j) :: es => (k, j.toValue) :: toValueEntries es

end

def article : Json → String
  | .null => "null"
  | .bool _ => "a bool"
  | .number _ => "a number"
  | .str _ => "a string"
  | .array _ => "an array"
  | .object _ => "an object"

end Json

end TitleTemplate
