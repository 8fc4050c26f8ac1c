import TitleTemplate.Text.Printable

/-! What dumps are made of, and the two ways to lay one out: on one line, or with one item a line
and four spaces of indent a level. Texts are in double quotes, with escapes for quotes, backslashes
and common controls, and code points in place of characters that do not print. -/
namespace TitleTemplate

def dumpChar (c : Char) : List Char :=
  if c = '"' ∨ c = '\\' then ['\\', c]
  else if c = '\n' then ['\\', 'n']
  else if c = '\r' then ['\\', 'r']
  else if c = '\t' then ['\\', 't']
  else if c.toNat = 0 then ['\\', '0']
  else if isPlain c then [c]
  else '\\' :: 'u' :: '\x7b' :: (Nat.toDigits 16 c.toNat ++ ['\x7d'])

def dumpString (s : String) : String :=
  String.ofList ('"' :: (s.toList.flatMap dumpChar ++ ['"']))

inductive Dump where
  | atom (text : String)
  | list (items : List Dump)
  | map (entries : List (String × Dump))
  /-- A name with its parts in parentheses. -/
  | call (name : String) (parts : List Dump)
  /-- A name with named parts in braces. -/
  | record (name : String) (fields : List (String × Dump))
  /-- A dump with a note after it. -/
  | noted (body : Dump) (note : String)
  deriving Inhabited

namespace Dump

def text (s : String) : Dump := .atom (dumpString s)

def optional : Option Dump → Dump
  | none => .atom "None"
  | some d => .call "Some" [d]

mutual

def compact : Dump → String
  | .atom text => text
  | .list items => "[" ++ ", ".intercalate (compactItems items) ++ "]"
  | .map entries =>
    "\x7b" ++ ", ".intercalate (compactEntries entries) ++ "\x7d"
  | .call name parts => name ++ "(" ++ ", ".intercalate (compactItems parts) ++ ")"
  | .record name fields =>
    name ++ " \x7b " ++ ", ".intercalate (compactFields fields) ++ " \x7d"
  | .noted body note => body.compact ++ note

def compactItems : List Dump → List String
  | [] => []
  | d :: ds => d.compact :: compactItems ds

def compactEntries : List (String × Dump) → List String
  | [] => []
  | (k, d) :: es => (dumpString k ++ ": " ++ d.compact) :: compactEntries es

def compactFields : List (String × Dump) → List String
  | [] => []
  | (k, d) :: es => (k ++ ": " ++ d.compact) :: compactFields es

end

def indent (level : Nat) : String := String.ofList (List.replicate (4 * level) ' ')

def block (level : Nat) (opening closing : String) (items : List String) : String :=
  if items.isEmpty then opening ++ closing
  else
    let lines := items.map fun item => indent (level + 1) ++ item ++ ",\n"
    opening ++ "\n" ++ String.join lines ++ indent level ++ closing

mutual

/-- One item a line. The level is how deep the dump stands in the one around it. -/
def pretty (level : Nat) : Dump → String
  | .atom text => text
  | .list items => block level "[" "]" (prettyItems (level + 1) items)
  | .map entries => block level "\x7b" "\x7d" (prettyEntries (level + 1) entries)
  | .call name parts => block level (name ++ "(") ")" (prettyItems (level + 1) parts)
  | .record name fields => block level (name ++ " \x7b") "\x7d" (prettyFields (level + 1) fields)
  | .noted body note => body.pretty level ++ note

def prettyItems (level : Nat) : List Dump → List String
  | [] => []
  | d :: ds => d.pretty level :: prettyItems level ds

def prettyEntries (level : Nat) : List (String × Dump) → List String
  | [] => []
  | (k, d) :: es => (dumpString k ++ ": " ++ d.pretty level) :: prettyEntries level es

def prettyFields (level : Nat) : List (String × Dump) → List String
  | [] => []
  | (k, d) :: es => (k ++ ": " ++ d.pretty level) :: prettyFields level es

end

end Dump

end TitleTemplate
