import TitleTemplate.Modifier.Basic
import TitleTemplate.Modifier.Numbers
import TitleTemplate.BoundedText
import TitleTemplate.Text.Casing
import TitleTemplate.Text.Search
import TitleTemplate.Value.Order

/-! What modifiers do to values. They never fail: an unknown one passes its value through, and a
value of the wrong kind becomes undefined. Those that can make a text longer stop at the limit. -/
namespace TitleTemplate
namespace Modifier

def cutTo (limit : Option Nat) (cs : List Char) : Value :=
  .str (match limit with
    | some limit => cutString limit (String.ofList cs)
    | none => String.ofList cs)

/-- Items separated by the first argument, or by a comma and a space. -/
def joinItems (limit : Option Nat) (args : List Value) (items : List Value) : Logged Value := do
  let separator := (args.head?.map Value.display).getD ", "
  let out ←
    BoundedText.writeJoined separator false (items.map Value.display) (BoundedText.empty limit)
  return .str out.text

def replaceAll (limit : Option Nat) (args : List Value) (s : String) : Logged Value := do
  let needle := (args.head?.map Value.display).getD ""
  if needle = "" then return .str s
  else
    let replacement := (args[1]?.map Value.display).getD ""
    let pieces := (piecesBetween needle.toList s.toList).map String.ofList
    let out ← BoundedText.writeJoined replacement false pieces (BoundedText.empty limit)
    return .str out.text

def escapeMarkup (limit : Option Nat) (s : String) : Logged Value := do
  let pieces := (markupPieces [] s.toList).map String.ofList
  return .str (← BoundedText.writeAll pieces (BoundedText.empty limit)).text

def truncateTo (args : List Value) (s : String) : Logged Value :=
  match args.head?.bind Value.number? with
  | some n =>
    if n.isNegative then do Logged.emit .truncateWithoutLength; return .str s
    else
      let top := Nat.pow 2 64 - 1
      pure (.ofChars (s.toList.take (min (n.whole top) top)))
  | none => do Logged.emit .truncateWithoutLength; return .str s

/-- The result of a modifier on a value that is defined, or nothing when it does not accept it. -/
def transform (m : Modifier) (v : Value) (args : List Value) (limit : Option Nat) :
    Logged (Option Value) :=
  match m with
  | .bytes => pure ((v.number?.bind (sizeText 1024)).map .str)
  | .bytes10 => pure ((v.number?.bind (sizeText 1000)).map .str)
  | .time => pure ((v.number?.bind durationText).map .str)
  | .comma => pure ((thousandsText v).map .str)
  | .join => v.items?.mapM (joinItems limit args)
  | .first => pure (v.items?.map fun items => items.head?.getD .undefined)
  | .last => pure (v.items?.map fun items => items.getLast?.getD .undefined)
  | .sort => pure (v.items?.map fun items => .seq (Value.sort items))
  | .length => pure ((v.length?.or (v.scalarText?.map String.length)).map .ofNat)
  | .reverse => pure ((v.items?.map fun items => .seq items.reverse).or
      (v.scalarText?.map fun s => .ofChars s.toList.reverse))
  | .upper => pure (v.scalarText?.map fun s => cutTo limit (upperText s.toList))
  | .lower => pure (v.scalarText?.map fun s => cutTo limit (lowerText s.toList))
  | .title => pure (v.scalarText?.map fun s => cutTo limit (titleText s.toList))
  | .truncate => v.scalarText?.mapM (truncateTo args)
  | .trim => pure (v.scalarText?.map fun s => .ofChars (trimBlanks s.toList))
  | .replace => v.scalarText?.mapM (replaceAll limit args)
  | .escape => v.scalarText?.mapM (escapeMarkup limit)
  | .string => pure (v.scalarText?.map .str)

end Modifier

/-- What is undefined stays undefined, without an event. -/
def ModifierName.apply (m : ModifierName) (v : Value) (args : List Value) (limit : Option Nat) :
    Logged Value :=
  match m with
  | .unknown name => do Logged.emit (.unknownModifier name); return v
  | .known m =>
    if v.isUndefined then pure v
    else do
      match ← m.transform v args limit with
      | some result => return result
      | none =>
        Logged.emit (.rejectedValue m.name v.kind)
        return .undefined

end TitleTemplate
