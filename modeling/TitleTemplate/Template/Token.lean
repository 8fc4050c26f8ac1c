import TitleTemplate.Text.Position

/-! Templates as runs of text and expression spans. Two opening braces stand for one brace of text;
a single one opens an expression, which ends at the next closing brace that has no backslash before
it. A brace that is never closed turns the rest of the template into text. -/
namespace TitleTemplate

inductive Token where
  | text (chars : List Char)
  /-- The two braces that stand for one. -/
  | brace
  /-- What stands between the braces of an expression. -/
  | expression (inner : List Char)
  deriving DecidableEq

/-- Splits at the first closing brace that is not escaped, and drops it. -/
def splitAtClose : List Char → Option (List Char × List Char)
  | [] => none
  | '\x7d' :: cs => some ([], cs)
  | '\\' :: c :: cs => (splitAtClose cs).map fun (inner, rest) => ('\\' :: c :: inner, rest)
  | c :: cs => (splitAtClose cs).map fun (inner, rest) => (c :: inner, rest)

theorem splitAtClose_length {cs inner rest : List Char} (h : splitAtClose cs = some (inner, rest)) :
    rest.length < cs.length := by
  fun_induction splitAtClose cs generalizing inner rest with
  | case1 => simp at h
  | case2 cs => simp_all
  | case3 c cs ih =>
    obtain ⟨⟨a, b⟩, hab, heq⟩ := Option.map_eq_some_iff.1 h
    have := ih hab
    simp only [Prod.mk.injEq] at heq
    obtain ⟨_, rfl⟩ := heq
    simp only [List.length_cons]
    omega
  | case4 c cs _ _ ih =>
    obtain ⟨⟨a, b⟩, hab, heq⟩ := Option.map_eq_some_iff.1 h
    have := ih hab
    simp only [Prod.mk.injEq] at heq
    obtain ⟨_, rfl⟩ := heq
    simp only [List.length_cons]
    omega

def isOpen (c : Char) : Bool := c = '\x7b'

theorem dropWhile_length {α : Type} (p : α → Bool) (xs : List α) :
    (xs.dropWhile p).length ≤ xs.length :=
  (List.dropWhile_suffix p).length_le

namespace Token

def scan (cs : List Char) : List Token :=
  match cs with
  | [] => []
  | c :: rest =>
    if isOpen c then
      match rest with
      | [] => [.text [c]]
      | d :: after =>
        if isOpen d then .brace :: scan after
        else
          match _found : splitAtClose (d :: after) with
          | some (inner, after) => .expression inner :: scan after
          | none => [.text (c :: d :: after)]
    else .text (c :: rest.takeWhile (!isOpen ·)) :: scan (rest.dropWhile (!isOpen ·))
termination_by cs.length
decreasing_by
  · simp only [List.length_cons]; omega
  · have := splitAtClose_length _found
    simp only [List.length_cons] at this ⊢
    omega
  · have := dropWhile_length (!isOpen ·) rest
    simp only [List.length_cons]
    omega

def source : Token → List Char
  | .text chars => chars
  | .brace => ['\x7b', '\x7b']
  | .expression inner => '\x7b' :: (inner ++ ['\x7d'])

def locate (p : Position) : List Token → List (Token × Span)
  | [] => []
  | t :: ts =>
    let stop := p.after t.source
    (t, ⟨p, stop⟩) :: locate stop ts

def ofTemplate (template : String) : List (Token × Span) :=
  locate .first (scan template.toList)

end Token
end TitleTemplate
