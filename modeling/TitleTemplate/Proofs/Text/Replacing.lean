import TitleTemplate.Text.Search

/-!
Replacing in a text. A text is divided where another occurs, and the pieces are put together again
with a third between them; that is every occurrence replaced, from left to right. The pieces of an
escaped text are put together as they are, and every character has become what stands for it.
-/
namespace TitleTemplate

/-- A text with every occurrence of another replaced. Where one is found, the search goes on after
it, so that occurrences do not overlap. -/
def substitute (needle replacement : List Char) : List Char → List Char
  | [] => []
  | c :: cs =>
    if needle.isPrefixOf (c :: cs) then
      replacement ++ substitute needle replacement (cs.drop (needle.length - 1))
    else c :: substitute needle replacement cs
termination_by cs => cs.length
decreasing_by all_goals simp only [List.length_cons, List.length_drop]; omega

theorem piecesFrom_skip (needle : List Char) (skip : Nat) (piece cs : List Char) :
    piecesFrom needle skip piece cs = piecesFrom needle 0 piece (cs.drop skip) := by
  induction cs generalizing skip with
  | nil => rw [List.drop_nil, piecesFrom, piecesFrom]
  | cons c cs ih =>
    cases skip with
    | zero => rfl
    | succ skip => rw [piecesFrom, ih, List.drop_succ_cons]

theorem piecesFrom_ne_nil (needle : List Char) (skip : Nat) (piece cs : List Char) :
    piecesFrom needle skip piece cs ≠ [] := by
  fun_induction piecesFrom needle skip piece cs with
  | case1 => exact List.cons_ne_nil _ _
  | case2 skip piece c cs ih => exact ih
  | case3 => exact List.cons_ne_nil _ _
  | case4 piece c cs other ih => exact ih

theorem intercalate_piecesFrom (needle replacement cs piece : List Char) :
    replacement.intercalate (piecesFrom needle 0 piece cs) =
      piece.reverse ++ substitute needle replacement cs := by
  induction cs using substitute.induct needle generalizing piece with
  | case1 => simp [piecesFrom, substitute]
  | case2 c cs found ih =>
    have later := piecesFrom_ne_nil needle 0 [] (cs.drop (needle.length - 1))
    rw [piecesFrom, if_pos found, piecesFrom_skip, List.intercalate_cons_of_ne_nil later, ih,
      substitute, if_pos found]
    simp
  | case3 c cs other ih =>
    rw [piecesFrom, if_neg other, ih, substitute, if_neg other]
    simp

theorem intercalate_piecesBetween (needle replacement cs : List Char) :
    replacement.intercalate (piecesBetween needle cs) = substitute needle replacement cs :=
  intercalate_piecesFrom needle replacement cs []

def escapedMarkup (cs : List Char) : List Char := cs.flatMap fun c => (entity? c).getD [c]

theorem flatten_markupPieces (run cs : List Char) :
    (markupPieces run cs).flatten = run.reverse ++ escapedMarkup cs := by
  induction cs generalizing run with
  | nil => by_cases empty : run = [] <;> simp [markupPieces, escapedMarkup, empty]
  | cons c cs ih =>
    rw [markupPieces, escapedMarkup, List.flatMap_cons, ← escapedMarkup]
    cases entity? c with
    | none => simp [ih]
    | some entity => by_cases empty : run = [] <;> simp [ih, empty]

end TitleTemplate
