import TitleTemplate.Events.Basic
import TitleTemplate.Json.Basic

/-! Values as JSON. Writing a value as JSON loses what JSON lacks: what is undefined, NaN and the
infinities become null. JSON has names only, so a map whose keys are values is given up as a whole
when one of them cannot be a name. -/
namespace TitleTemplate.Value

mutual

def toJson : Value → Json
  | .undefined | .none => .null
  | .bool b => .bool b
  | .int n => .number (.integer n)
  | .float x => Json.ofFloat x
  | .str s => .str s
  | .seq items => .array (toJsonItems items)
  | .map entries => .object (toJsonEntries entries)

def toJsonItems : List Value → List Json
  | [] => []
  | v :: vs => v.toJson :: toJsonItems vs

def toJsonEntries : List (String × Value) → List (String × Json)
  | [] => []
  | (k, v) :: es => (k, v.toJson) :: toJsonEntries es

end

/-- What is left of a value after a passage through JSON. -/
def throughJson (v : Value) : Value := v.toJson.toValue

def keyName? : Value → Option String
  | v@(.bool _) | v@(.int _) | v@(.str _) => some v.display
  | _ => Option.none

def ofKeyed (entries : List (Value × Value)) : Logged Value :=
  match entries.mapM fun (k, v) => (keyName? k).map (·, v) with
  | some named => pure (.map (Entries.ofList named))
  | Option.none => do
    Logged.emit (.unserializable "key must be a string")
    return .undefined

end TitleTemplate.Value
