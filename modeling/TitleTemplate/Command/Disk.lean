import TitleTemplate.Command.Run

/-! Files held in memory, as a run of the command sees them and leaves them behind. -/
namespace TitleTemplate.Command

inductive PathFault where
  | missing
  | busy
  | notDirectory
  | isDirectory
  | nameTooLong

def PathFault.message : PathFault → String
  | .missing => "No such file or directory (os error 2)"
  | .busy => "Device or resource busy (os error 16)"
  | .notDirectory => "Not a directory (os error 20)"
  | .isDirectory => "Is a directory (os error 21)"
  | .nameTooLong => "File name too long (os error 36)"

/-- The names that lead to a file or a directory from the root, the last one first. -/
abbrev Place := List String

/-- The directories, the root apart, and the contents of the files. -/
structure Disk where
  directories : List Place
  files : List (Place × String)

namespace Disk

def longestName : Nat := 255

def longestPath : Nat := 4095

def isDirectory (disk : Disk) (place : Place) : Bool := place = [] || place ∈ disk.directories

/-- Follows parts of a path from a directory, through directories alone. -/
def enter (disk : Disk) : Place → List String → Except PathFault Place
  | here, [] => .ok here
  | here, part :: parts =>
    if isStill part then enter disk here parts
    else if part = ".." then enter disk here.tail parts
    else if longestName < part.utf8ByteSize then .error .nameTooLong
    else if disk.isDirectory (part :: here) then enter disk (part :: here) parts
    else if (disk.files.lookup (part :: here)).isSome then .error .notDirectory
    else .error .missing

def enterPath (disk : Disk) (path : String) : Except PathFault Place :=
  if longestPath < path.utf8ByteSize then .error .nameTooLong else disk.enter [] (pathParts path)

def approach (disk : Disk) (path : String) (parts : List String) :
    Except PathFault (Place × String) := do
  if longestPath < path.utf8ByteSize then throw .nameTooLong
  let here ← disk.enter [] parts.dropLast
  let last := parts.getLastD ""
  if longestName < last.utf8ByteSize then throw .nameTooLong
  return (here, last)

def read (disk : Disk) (path : String) : Except PathFault String := do
  let (here, last) ← disk.approach path (pathParts path)
  if isStill last || last = ".." || disk.isDirectory (last :: here) then throw .isDirectory
  match disk.files.lookup (last :: here) with
  | some text => return text
  | none => throw .missing

def put (disk : Disk) (path text : String) : Except PathFault Disk := do
  let parts := ((pathParts path).reverse.dropWhile (· = "")).reverse
  let (here, last) ← disk.approach path parts
  if last = "." || last = ".." then throw .busy
  if path.endsWith "/" then throw .notDirectory
  if disk.isDirectory (last :: here) then throw .isDirectory
  return { disk with files := (last :: here, text) :: disk.files }

/-- What a run in a directory sees. An empty name leads nowhere. -/
def around (disk : Disk) (directory : String) (standardInput : String) : Surroundings where
  fileContent name :=
    if name = "" then .error PathFault.missing.message
    else (disk.read (pathFrom directory name)).mapError PathFault.message
  standardInput := .ok standardInput
  directory := directory
  createIn path := ((disk.enterPath path).map fun _ => ()).mapError PathFault.message

def run (disk : Disk) (directory : String) (standardInput : String) (i : Invocation) :
    Outcome × Disk :=
  let outcome := Command.run (disk.around directory standardInput) i
  match outcome.written with
  | none => (outcome, disk)
  | some (path, text) =>
    match disk.put path text with
    | .ok disk => (outcome, disk)
    | .error fault => (outcome.unwritten path fault.message, disk)

end Disk
end TitleTemplate.Command
