/-! Finding a text inside another, dividing a text where another occurs, and putting entities in the
place of the five characters that are reserved in HTML. -/
namespace TitleTemplate

def occursIn (needle : List Char) : List Char → Bool
  | [] => needle.isEmpty
  | c :: cs => needle.isPrefixOf (c :: cs) || occursIn needle cs

/-- The pieces between the occurrences of a text that is not empty, which are found from left to
right and do not overlap. The second argument counts characters of the last occurrence that are
still to be skipped, the third holds the piece read so far, latest character first. -/
def piecesFrom (needle : List Char) : Nat → List Char → List Char → List (List Char)
  | _, piece, [] => [piece.reverse]
  | skip + 1, piece, _ :: cs => piecesFrom needle skip piece cs
  | 0, piece, c :: cs =>
    if needle.isPrefixOf (c :: cs) then
      piece.reverse :: piecesFrom needle (needle.length - 1) [] cs
    else piecesFrom needle 0 (c :: piece) cs

def piecesBetween (needle cs : List Char) : List (List Char) := piecesFrom needle 0 [] cs

def splitAtChar (c : Char) : List Char → List (List Char)
  | [] => [[]]
  | d :: cs =>
    if d = c then [] :: splitAtChar c cs
    else
      match splitAtChar c cs with
      | [] => [[d]]
      | part :: parts => (d :: part) :: parts

def entity? (c : Char) : Option (List Char) :=
  if c = '<' then some "&lt;".toList
  else if c = '>' then some "&gt;".toList
  else if c = '&' then some "&amp;".toList
  else if c = '"' then some "&quot;".toList
  else if c = '\'' then some "&#x27;".toList
  else none

/-- The escaped text in pieces: each entity, and each run of characters between two of them. The
first argument is the run read so far, latest character first. -/
def markupPieces (run : List Char) : List Char → List (List Char)
  | [] => if run = [] then [] else [run.reverse]
  | c :: cs =>
    match entity? c with
    | some entity =>
      if run = [] then entity :: markupPieces [] cs
      else run.reverse :: entity :: markupPieces [] cs
    | none => markupPieces (c :: run) cs

end TitleTemplate
