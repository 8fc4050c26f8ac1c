/-! The modifiers and their names. A name that belongs to none of them is kept, so that a template
may use it before the library knows it. -/
namespace TitleTemplate

inductive Modifier where
  | bytes
  | bytes10
  | time
  | comma
  | join
  | first
  | last
  | sort
  | length
  | reverse
  | upper
  | lower
  | title
  | truncate
  | trim
  | replace
  | escape
  | string
  deriving DecidableEq

namespace Modifier

def all : List Modifier :=
  [.bytes, .bytes10, .time, .comma, .join, .first, .last, .sort, .length, .reverse, .upper, .lower,
    .title, .truncate, .trim, .replace, .escape, .string]

def name : Modifier → String
  | .bytes => "bytes"
  | .bytes10 => "bytes10"
  | .time => "time"
  | .comma => "comma"
  | .join => "join"
  | .first => "first"
  | .last => "last"
  | .sort => "sort"
  | .length => "length"
  | .reverse => "reverse"
  | .upper => "upper"
  | .lower => "lower"
  | .title => "title"
  | .truncate => "truncate"
  | .trim => "trim"
  | .replace => "replace"
  | .escape => "escape"
  | .string => "string"

end Modifier

inductive ModifierName where
  | known (m : Modifier)
  | unknown (name : String)
  deriving DecidableEq

namespace ModifierName

def ofString (name : String) : ModifierName :=
  match Modifier.all.find? (·.name = name) with
  | some m => .known m
  | none => .unknown name

def toString : ModifierName → String
  | .known m => m.name
  | .unknown name => name

def isKnown : ModifierName → Bool
  | .known _ => true
  | .unknown _ => false

end ModifierName
end TitleTemplate
