import TitleTemplate.Json.Basic
import TitleTemplate.Json.Reader
import TitleTemplate.Template.Expression

/-! Definitions on the command line: `key=text`, `key:=json`, or a key alone for true. Keys are
dotted paths into the data. Objects are made on the way to a key, also in place of what is not an
object. -/
namespace TitleTemplate.Json

def entriesOf : Option Json → List (String × Json)
  | some (.object entries) => entries
  | _ => []

/-- Sets a value. The flag says whether every key of the path has a name; objects on the way to one
that has none are made all the same. -/
def putAt (value : Json) : List String → List (String × Json) → Bool × List (String × Json)
  | [], entries => (false, entries)
  | key :: keys, entries =>
    if key = "" then (false, entries)
    else if keys = [] then (true, Entries.insert key value entries)
    else
      let (done, inner) := putAt value keys (entriesOf (Entries.find? key entries))
      (done, Entries.insert key (.object inner) entries)

end TitleTemplate.Json

namespace TitleTemplate

inductive DefineFault where
  | invalidPath (key : String)
  /-- A raw value that is not JSON. -/
  | invalidRaw (raw : String)
  deriving DecidableEq

def DefineFault.message : DefineFault → String
  | .invalidPath key => "invalid define path '" ++ key ++ "'"
  | .invalidRaw raw => "invalid raw value '" ++ raw ++ "' (not valid JSON)"

def splitOnce (mark : List Char) : List Char → Option (List Char × List Char)
  | [] => if mark = [] then some ([], []) else none
  | c :: cs =>
    if mark.isPrefixOf (c :: cs) then some ([], (c :: cs).drop mark.length)
    else (splitOnce mark cs).map fun (before, after) => (c :: before, after)

def readDefine (item : String) : Except DefineFault (String × Json) :=
  match splitOnce [':', '='] item.toList with
  | some (key, raw) =>
    match Json.parse? Json.maxLevels (String.ofList raw) with
    | some value => .ok (String.ofList key, value.tree)
    | none => .error (.invalidRaw (String.ofList raw))
  | none =>
    match splitOnce ['='] item.toList with
    | some (key, text) => .ok (String.ofList key, .str (String.ofList text))
    | none => .ok (item, .bool true)

/-- Applies a definition to the entries of the data. They may have changed even if it fails. -/
def define (item : String) (entries : List (String × Json)) :
    Option DefineFault × List (String × Json) :=
  match readDefine item with
  | .error fault => (some fault, entries)
  | .ok (key, value) =>
    let path := (splitAtChar '.' key.toList).map String.ofList
    match Json.putAt value path entries with
    | (true, entries) => (none, entries)
    | (false, entries) => (some (.invalidPath key), entries)

/-- Applies definitions in order up to the first that fails. -/
def defineAll : List String → List (String × Json) → Except DefineFault (List (String × Json))
  | [], entries => .ok entries
  | item :: items, entries =>
    match define item entries with
    | (some fault, _) => .error fault
    | (none, entries) => defineAll items entries

end TitleTemplate
