import TitleTemplate.Command.Define
import TitleTemplate.Command.Notice
import TitleTemplate.Command.Path
import TitleTemplate.Session
import TitleTemplate.Legacy.Conversion
import TitleTemplate.Template.Dump

/-! A run of the command: from its options and from what it can read to what it writes. A file is
written only when the run succeeds; what goes to standard output is written as it comes. -/
namespace TitleTemplate.Command

inductive DumpKind where
  | tokens
  | tree
  deriving DecidableEq

structure Invocation where
  template : String
  data : Option String
  defines : List String
  legacy : Bool
  convert : Bool
  dump : Option DumpKind
  limits : Limits
  newline : Bool
  output : String

/-- What a run can see: files or why they cannot be read, standard input, the directory it runs in,
and whether a file can be made in a directory. -/
structure Surroundings where
  fileContent : String → Except String String
  standardInput : Except String String
  directory : String
  createIn : String → Except String Unit

/-- What is left after a source has been read. Standard input is read to its end, so that there is
nothing in it afterwards. -/
def Surroundings.past (around : Surroundings) (name : String) : Surroundings :=
  if isStandard name then { around with standardInput := .ok "" } else around

inductive Failure where
  | unreadable (what : String) (name : String) (reason : String)
  | bothStandard
  | dataNotJson
  | dataNotObject (article : String)
  | badDefine (fault : DefineFault)
  | rootOutput
  | cannotCreate (directory : String) (reason : String)
  | cannotWrite (path : String) (reason : String)
  | badTemplate (fault : Fault)

namespace Failure

def message : Failure → String
  | .unreadable what name _ =>
    if isStandard name then "unable to read " ++ what ++ " from stdin"
    else "unable to read " ++ what ++ " file '" ++ name ++ "'"
  | .bothStandard => "cannot read both template and data from stdin"
  | .dataNotJson => "data is not valid JSON"
  | .dataNotObject article => "data must be a JSON object, got " ++ article
  | .badDefine fault => fault.message
  | .rootOutput => "cannot write to root"
  | .cannotCreate directory _ => "unable to create output in '" ++ directory ++ "'"
  | .cannotWrite path _ => "unable to write '" ++ path ++ "'"
  | .badTemplate fault => fault.message

def reasons : Failure → List String
  | .unreadable _ _ reason | .cannotCreate _ reason => [reason]
  | .cannotWrite _ reason => ["failed to persist temporary file: " ++ reason, reason]
  | .dataNotJson | .badDefine (.invalidRaw _) => ["the text is not a JSON document"]
  | .badTemplate fault => fault.cause.source.toList
  | .bothStandard | .dataNotObject _ | .badDefine (.invalidPath _) | .rootOutput => []

end Failure

structure Outcome where
  printed : String
  /-- The path of the file that is to be written, with its content. -/
  written : Option (String × String)
  failure : Option Failure
  notices : List Notice

namespace Outcome

def exitCode (o : Outcome) : Nat := if o.failure.isNone then 0 else 1

/-- What is left of a run whose file could not be put in its place. -/
def unwritten (o : Outcome) (path reason : String) : Outcome :=
  { o with written := none, failure := some (.cannotWrite path reason) }

end Outcome

/-- What a run has come up with: text to put out, perhaps a failure after it, and the notices. -/
structure Produced where
  text : String
  failure : Option Failure
  notices : List Notice

def readSource (around : Surroundings) (what name : String) : Except Failure String :=
  let read := if isStandard name then around.standardInput else around.fileContent name
  read.mapError (.unreadable what name)

def readData (around : Surroundings) (i : Invocation) :
    Except Failure (List (String × Json)) :=
  match i.data with
  | none => .ok []
  | some name => do
    if i.template = standard ∧ isStandard name then throw .bothStandard
    let text ← readSource around "data" name
    match (Json.parse? Json.maxLevels text).map Json.tree with
    | none => throw .dataNotJson
    | some (.object entries) => return entries
    | some other => throw (.dataNotObject other.article)

/-- Makes sure that the output can be written before anything else is done. -/
def openOutput (around : Surroundings) (name : String) : Except Failure (List Notice) := do
  if isStandard name then return []
  let path := pathFrom around.directory name
  match parentOf? path with
  | none => throw .rootOutput
  | some parent =>
    (around.createIn parent).mapError (.cannotCreate parent)
    return [.openedOutput path]

def endLine (i : Invocation) (text : String) : String := if i.newline then text ++ "\n" else text

def dumpText (limits : Limits) (source : String) : DumpKind → Produced
  | .tokens =>
    let (lines, fault) := dumpTokens (Token.ofTemplate source)
    ⟨String.join (lines.map (· ++ "\n")), fault.map .badTemplate, []⟩
  | .tree =>
    match parse limits.depth source with
    | .ok nodes => ⟨(Dump.list (dumpNodes nodes)).pretty 0 ++ "\n", none, []⟩
    | .error fault => ⟨"", some (.badTemplate fault), []⟩

def renderText (around : Surroundings) (i : Invocation) (source : String) :
    Except Failure Produced := do
  let entries ← readData around i
  let entries ← (defineAll i.defines entries).mapError .badDefine
  let template ← (Template.parse i.limits source).mapError .badTemplate
  let rendered := template.render (Json.object entries).toValue
  return ⟨endLine i rendered.value, none, rendered.events.map .event⟩

def produce (around : Surroundings) (i : Invocation) (source : String) : Produced :=
  let converted := Legacy.convert source
  let (source, notices) :=
    if i.legacy || i.convert then
      (converted.value, Notice.convertingLegacy :: converted.events.map .event)
    else (source, [])
  let produced :=
    if i.convert then ⟨endLine i source, none, []⟩
    else
      match i.dump with
      | some kind => dumpText i.limits source kind
      | none =>
        match renderText around i source with
        | .ok produced => produced
        | .error failure => ⟨"", some failure, []⟩
  { produced with notices := notices ++ produced.notices }

def run (around : Surroundings) (i : Invocation) : Outcome :=
  let prepared := do
    let source ← readSource around "template" i.template
    return (source, ← openOutput around i.output)
  match prepared with
  | .error failure => ⟨"", none, some failure, []⟩
  | .ok (source, opened) =>
    let produced := produce (around.past i.template) i source
    let notices := opened ++ produced.notices
    if isStandard i.output then ⟨produced.text, none, produced.failure, notices⟩
    else
      match produced.failure with
      | none =>
        let path := pathFrom around.directory i.output
        ⟨"", some (path, produced.text), none, notices⟩
      | some failure => ⟨"", none, some failure, notices⟩

end TitleTemplate.Command
