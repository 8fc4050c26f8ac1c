import TitleTemplate.Command.Run

/-! The arguments of the command: flags, options with a value, and the names of the template and of
the data. Options may stand anywhere, and after two dashes everything is a name. -/
namespace TitleTemplate.Command

inductive UsageFault where
  | unknownOption (name : String)
  | missingValue (name : String)
  | badValue (name value : String)
  | surplus (argument : String)
  /-- Converting and dumping exclude each other. -/
  | convertAndDump

def UsageFault.message : UsageFault → String
  | .unknownOption name => "unexpected argument '" ++ name ++ "'"
  | .missingValue name => "a value is required for '" ++ name ++ "'"
  | .badValue name value => "invalid value '" ++ value ++ "' for '" ++ name ++ "'"
  | .surplus argument => "unexpected argument '" ++ argument ++ "'"
  | .convertAndDump => "'--convert' cannot be used with '--dump'"

/-- One argument with what belongs to it. -/
inductive Item where
  | flag (name : String)
  | option (name value : String)
  | operand (text : String)

def flagNames : List String := ["--legacy", "--convert", "--no-newline"]

def optionNames : List String := ["--define", "--dump", "--max-depth", "--max-output", "--output"]

def optionName? (name : String) : Option String :=
  if name = "-D" then some "--define"
  else if name = "-o" then some "--output"
  else optionNames.find? (· = name)

/-- An option with its value in the same argument. -/
def attached? (arg : String) : Option Item :=
  if arg.startsWith "--" then
    let name := String.ofList (arg.toList.takeWhile (· ≠ '='))
    if '=' ∈ arg.toList ∧ name ∈ optionNames then
      some (.option name (String.ofList (arg.toList.drop (name.length + 1))))
    else none
  else
    let value := String.ofList (match arg.toList.drop 2 with
      | '=' :: rest => rest
      | rest => rest)
    if arg.length ≤ 2 then none
    else (optionName? (String.ofList (arg.toList.take 2))).map (.option · value)

def readItems : List String → Except UsageFault (List Item)
  | [] => .ok []
  | "--" :: rest => .ok (rest.map .operand)
  | arg :: rest =>
    if arg ∈ flagNames then do return .flag arg :: (← readItems rest)
    else
      match optionName? arg, rest with
      | some name, value :: rest => do return .option name value :: (← readItems rest)
      | some name, [] => .error (.missingValue name)
      | none, rest =>
        match attached? arg with
        | some item => do return item :: (← readItems rest)
        | none =>
          if arg.startsWith "-" ∧ arg ≠ standard then .error (.unknownOption arg)
          else do return .operand arg :: (← readItems rest)

def Invocation.plain : Invocation :=
  ⟨standard, none, [], false, false, none, .default, true, standard⟩

def readCount (name value : String) : Except UsageFault Nat :=
  match readNatUpTo? (Nat.pow 2 64 - 1) value.toList with
  | some n => .ok n
  | none => .error (.badValue name value)

def Invocation.withFlag (i : Invocation) (name : String) : Invocation :=
  if name = "--legacy" then { i with legacy := true }
  else if name = "--convert" then { i with convert := true }
  else { i with newline := false }

def Invocation.withOption (i : Invocation) (name value : String) :
    Except UsageFault Invocation :=
  if name = "--define" then .ok { i with defines := i.defines ++ [value] }
  else if name = "--output" then .ok { i with output := value }
  else if name = "--max-depth" then do
    return { i with limits := ⟨← readCount name value, i.limits.output⟩ }
  else if name = "--max-output" then do
    return { i with limits := ⟨i.limits.depth, ← readCount name value⟩ }
  else if value = "tokens" then .ok { i with dump := some .tokens }
  else if value = "ast" then .ok { i with dump := some .tree }
  else .error (.badValue name value)

def Invocation.withItems : Invocation → List Item → Except UsageFault Invocation
  | i, [] => .ok i
  | i, .flag name :: items => (i.withFlag name).withItems items
  | i, .option name value :: items => do (← i.withOption name value).withItems items
  | i, .operand _ :: items => i.withItems items

def Item.operand? : Item → Option String
  | .operand text => some text
  | _ => none

def Invocation.ofArguments (args : List String) : Except UsageFault Invocation := do
  let items ← readItems args
  let i ← Invocation.plain.withItems items
  if i.convert && i.dump.isSome then throw .convertAndDump
  match items.filterMap Item.operand? with
  | [] => return i
  | [template] => return { i with template := template }
  | [template, data] => return { i with template := template, data := some data }
  | _ :: _ :: surplus :: _ => throw (.surplus surplus)

end TitleTemplate.Command
