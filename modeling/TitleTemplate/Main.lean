import TitleTemplate.Command.Arguments
import TitleTemplate.Command.Disk
import TitleTemplate.Command.Log

/-! The command itself: it looks at what a run may see, lets the run decide, and puts out what came
of it. -/
namespace TitleTemplate.Command

def usage : String :=
  "usage: title-template [--define KEY=VALUE]... [--legacy] [--convert] [--dump ast|tokens]\n" ++
  "  [--max-depth DEPTH] [--max-output BYTES] [--no-newline] [--output FILE] [TEMPLATE] [DATA]"

def faultOf? : IO.Error → Option PathFault
  | .noFileOrDirectory .. => some .missing
  | .resourceBusy .. => some .busy
  | .inappropriateType _ code _ =>
    if code = 20 then some .notDirectory
    else if code = 21 then some .isDirectory
    else none
  | _ => none

def reasonOf (e : IO.Error) : String := ((faultOf? e).map PathFault.message).getD (toString e)

def readSourceText (name : String) : IO (Except String String) := do
  try
    let text ← if isStandard name then (← IO.getStdin).readToEnd else IO.FS.readFile name
    return .ok text
  catch e => return .error (reasonOf e)

/-- Where an output is written first, in the directory that it goes to. -/
def scratchPath (directory : String) : String := pathFrom directory ".title-template.partial"

/-- Whether a file can be made in a directory, found out by making one. -/
def tryDirectory (directory : String) : IO (Except String Unit) := do
  try
    IO.FS.writeFile (scratchPath directory) ""
    return .ok ()
  catch e => return .error (reasonOf e)

def outputDirectory? (here : String) (i : Invocation) : Option String :=
  if isStandard i.output then none else parentOf? (pathFrom here i.output)

def look (i : Invocation) : IO Surroundings := do
  let here := (← IO.currentDir).toString
  let template ← readSourceText i.template
  let created ← match outputDirectory? here i with
    | some directory => if template.toOption.isSome then tryDirectory directory else pure (.ok ())
    | none => pure (.ok ())
  let wantsData := !i.convert && i.dump.isNone && created.toOption.isSome
  let data ← match i.data with
    | some name => if wantsData && (i.template ≠ standard || !isStandard name)
        then readSourceText name else pure template
    | none => pure template
  let fileContent (name : String) : Except String String :=
    if name = i.template then template else data
  let standardInput := if isStandard i.template then template else data
  return ⟨fileContent, standardInput, here, fun _ => created⟩

/-- Puts the output in its place, or clears away what was made for it. -/
def settle (here : String) (i : Invocation) (outcome : Outcome) : IO Outcome := do
  let some directory := outputDirectory? here i | return outcome
  let scratch := scratchPath directory
  let clear : IO Unit := try IO.FS.removeFile scratch catch _ => pure ()
  match outcome.written with
  | none =>
    clear
    return outcome
  | some (path, text) =>
    try
      IO.FS.writeFile scratch text
      IO.FS.rename scratch path
      return outcome
    catch e =>
      clear
      return outcome.unwritten path (reasonOf e)

def report (failure : Failure) : IO Unit := do
  IO.eprintln ("error: " ++ failure.message)
  for reason in failure.reasons do
    IO.eprintln ("\ncaused by: " ++ reason)

end TitleTemplate.Command

open TitleTemplate Command

def main (args : List String) : IO UInt32 := do
  match Invocation.ofArguments args with
  | .error fault =>
    IO.eprintln ("error: " ++ fault.message ++ "\n\n" ++ usage)
    return 2
  | .ok i =>
    let around ← look i
    let outcome ← settle around.directory i (run around i)
    let setting ← IO.getEnv "TITLE_TEMPLATE_LOG"
    for line in logLines "title_template" setting outcome.notices do
      IO.eprintln line
    IO.print outcome.printed
    (← IO.getStdout).flush
    if let some failure := outcome.failure then report failure
    return outcome.exitCode.toUInt32
