import TitleTemplate.Text.Search

/-! Paths of files as texts: parts with slashes between them. Empty parts and single dots lead
nowhere. -/
namespace TitleTemplate.Command

def pathParts (path : String) : List String :=
  (splitAtChar '/' path.toList).map String.ofList

def isStill (part : String) : Bool := part = "" || part = "."

def trimParts (parts : List String) : List String := (parts.reverse.dropWhile isStill).reverse

/-- The directory that holds what a path from the root leads to. The root itself lies in none. -/
def parentOf? (path : String) : Option String :=
  match trimParts (pathParts path) with
  | [] => none
  | parts =>
    match trimParts parts.dropLast with
    | [] => some "/"
    | parents => some ("/".intercalate parents)

/-- A path from the root to what a name stands for in a directory. -/
def pathFrom (directory name : String) : String :=
  if name.startsWith "/" then name
  else if directory.endsWith "/" then directory ++ name
  else directory ++ "/" ++ name

def standard : String := "-"

/-- Whether a path is that name, perhaps with parts after it that lead nowhere. -/
def isStandard (path : String) : Bool :=
  match pathParts path with
  | first :: rest => first = standard && rest.all isStill
  | [] => false

end TitleTemplate.Command
