import TitleTemplate.Proofs.Template.Items
import TitleTemplate.Proofs.Template.Tokens

/-!
Templates without positions. An outline goes through the tokens as `parse` does, but puts every node
at the same place and says of a fault only that there is one. It finds the nodes of `parse` up to
their spans, and it reads a text from left to right: what a text spells is settled by the text
alone, whatever is open before it and whatever follows it.
-/
namespace TitleTemplate

def noPosition : Position → Position := fun _ => default

def plainNodes (ns : List Node) : List Node := relocateNodes noPosition ns

def plainLexed (cs : List Char) : Lexed := (Lexed.scan default cs).relocate noPosition

theorem aligned_noPosition (p q : Position) : Aligned noPosition noPosition p q := fun _ => rfl

theorem scan_plain (p : Position) (cs : List Char) :
    (Lexed.scan p cs).relocate noPosition = plainLexed cs :=
  scan_relocate (aligned_noPosition p default) cs

def itemOf (limit : Nat) (inner : List Char) : Option Item :=
  (Item.read limit inner (plainLexed inner) default).toOption

def advance (limit : Nat) (p : Progress) : Token → Option Progress
  | .text chars => some (p.modifyBody (appendText chars default))
  | .brace => some (p.modifyBody (appendText ['\x7b'] default))
  | .expression inner => (p.takeIn limit inner (plainLexed inner) default).toOption

def outline (limit : Nat) (p : Progress) (cs : List Char) : Option Progress :=
  (Token.scan cs).foldlM (advance limit) p

theorem token_plain (limit : Nat) (p : Progress) (t : Token) (span : Span) :
    (relocated noPosition (Progress.relocate noPosition) (p.token limit (t, span))).toOption =
      advance limit (p.relocate noPosition) t := by
  cases t with
  | text chars =>
    exact congrArg some (modifyBody_relocate noPosition (appendText_relocate noPosition chars span))
  | brace =>
    exact congrArg some (modifyBody_relocate noPosition (appendText_relocate noPosition _ span))
  | expression inner =>
    simp only [Progress.token, expression_eq_takeIn, takeIn_relocate, Lexed.ofExpression,
      scan_plain, advance]
    rfl

theorem toOption_bind {ε α β : Type} (x : Except ε α) (k : α → Except ε β) :
    (x >>= k).toOption = x.toOption.bind fun a => (k a).toOption := by
  cases x <;> rfl

theorem toOption_relocated {α β : Type} (f : Position → Position) (g : α → β)
    (x : Except Fault α) : (relocated f g x).toOption = x.toOption.map g := by
  cases x <;> rfl

theorem tokens_plain (limit : Nat) (p : Progress) (place : Position) (ts : List Token) :
    ((Token.locate place ts).foldlM (Progress.token limit) p).toOption.map
        (Progress.relocate noPosition) =
      ts.foldlM (advance limit) (p.relocate noPosition) := by
  induction ts generalizing p place with
  | nil => rfl
  | cons t ts ih =>
    simp only [Token.locate, List.foldlM_cons]
    rw [← token_plain limit p t ⟨place, place.after t.source⟩, toOption_relocated, toOption_bind]
    cases p.token limit (t, ⟨place, place.after t.source⟩) with
    | error fault => rfl
    | ok next => exact ih next _

def Progress.closed? (p : Progress) : Option (List Node) :=
  match p.blocks with
  | [] => some p.nodes.reverse
  | _ :: _ => none

theorem finish_plain (p : Progress) :
    p.finish.toOption.map plainNodes = (p.relocate noPosition).closed? := by
  obtain ⟨nodes, blocks⟩ := p
  cases blocks with
  | nil => exact congrArg some (relocateNodes_reverse noPosition nodes)
  | cons b blocks => rfl

theorem parse_plain (limit : Nat) (template : String) :
    (parse limit template).toOption.map plainNodes =
      (outline limit .start template.toList).bind Progress.closed? := by
  have run : ((Token.locate .first (Token.scan template.toList)).foldlM (Progress.token limit)
      .start).toOption.map (Progress.relocate noPosition) = outline limit .start template.toList :=
    tokens_plain limit .start .first (Token.scan template.toList)
  rw [← run, parse, Token.ofTemplate, toOption_bind]
  cases (Token.locate .first (Token.scan template.toList)).foldlM (Progress.token limit)
      .start with
  | error fault => rfl
  | ok p => exact finish_plain p

theorem parse_of_outline {limit : Nat} {cs : List Char} {ns : List Node}
    (read : (outline limit .start cs).bind Progress.closed? = some ns) :
    ∃ nodes, parse limit (String.ofList cs) = .ok nodes ∧ plainNodes nodes = ns := by
  have same := parse_plain limit (String.ofList cs)
  rw [String.toList_ofList, read] at same
  cases parsed : parse limit (String.ofList cs) with
  | error fault =>
    rw [parsed] at same
    cases same
  | ok nodes =>
    rw [parsed] at same
    exact ⟨nodes, rfl, Option.some.inj same⟩

theorem outline_of_parse {limit : Nat} {cs : List Char} {nodes : List Node}
    (parsed : parse limit (String.ofList cs) = .ok nodes) :
    (outline limit .start cs).bind Progress.closed? = some (plainNodes nodes) := by
  have same := parse_plain limit (String.ofList cs)
  rw [String.toList_ofList, parsed] at same
  exact same.symm

/-- Puts a node after others, latest first. Text after text becomes one literal. -/
def pushNode (body : List Node) : Node → List Node
  | .literal text span => appendText text.toList span body
  | n => n :: body

def pushNodes (ns body : List Node) : List Node := ns.foldl pushNode body

def Progress.push (p : Progress) (ns : List Node) : Progress := p.modifyBody (pushNodes ns)

/-- Nodes in order, with text after text as one literal. -/
def merged (ns : List Node) : List Node := (pushNodes ns []).reverse

def charNode (c : Char) : Node := .literal (String.ofList [c]) default

theorem modifyBody_modifyBody (p : Progress) (f g : List Node → List Node) :
    (p.modifyBody f).modifyBody g = p.modifyBody fun ns => g (f ns) := by
  obtain ⟨nodes, blocks⟩ := p
  cases blocks <;> rfl

theorem push_nil (p : Progress) : p.push [] = p := by
  obtain ⟨nodes, blocks⟩ := p
  cases blocks <;> rfl

theorem push_push (p : Progress) (ns ms : List Node) : (p.push ns).push ms = p.push (ns ++ ms) := by
  rw [Progress.push, Progress.push, Progress.push, modifyBody_modifyBody]
  refine congrArg p.modifyBody (funext fun body => ?_)
  rw [pushNodes, pushNodes, pushNodes, List.foldl_append]

theorem modifyBody_blocks_length (p : Progress) (change : List Node → List Node) :
    (p.modifyBody change).blocks.length = p.blocks.length := by
  obtain ⟨nodes, blocks⟩ := p
  cases blocks <;> rfl

theorem push_blocks_length (p : Progress) (ns : List Node) :
    (p.push ns).blocks.length = p.blocks.length :=
  modifyBody_blocks_length p (pushNodes ns)

theorem push_char (p : Progress) (c : Char) :
    p.push [charNode c] = p.modifyBody (appendText [c] default) := by
  refine congrArg p.modifyBody (funext fun body => ?_)
  rw [pushNodes, List.foldl_cons, List.foldl_nil, charNode, pushNode, String.toList_ofList]

theorem appendText_appendText (a b : List Char) (s t : Span) (ns : List Node) :
    appendText b t (appendText a s ns) = appendText (a ++ b) ⟨s.start, t.stop⟩ ns := by
  cases ns with
  | nil => simp [appendText, Span.upTo, String.ofList_append]
  | cons n ns =>
    cases n <;> simp [appendText, Span.upTo, String.ofList_append, String.append_assoc]

theorem outline_nil (limit : Nat) (p : Progress) : outline limit p [] = some p := by
  rw [outline, Token.scan_nil]
  rfl

/-- A character that is no brace is text, and the run it belongs to may be read in pieces. -/
theorem outline_char (limit : Nat) (p : Progress) {c : Char} (notOpen : isOpen c = false)
    (tail : List Char) :
    outline limit p (c :: tail) = outline limit (p.push [charNode c]) tail := by
  rw [outline, outline, Token.scan_text notOpen, push_char, List.foldlM_cons]
  cases tail with
  | nil => rfl
  | cons d tail =>
    cases opens : isOpen d with
    | true =>
      rw [List.takeWhile_cons, List.dropWhile_cons, opens]
      rfl
    | false =>
      have merge : p.modifyBody (appendText (c :: d :: tail.takeWhile (!isOpen ·)) default) =
          (p.modifyBody (appendText [c] default)).modifyBody
            (appendText (d :: tail.takeWhile (!isOpen ·)) default) := by
        rw [modifyBody_modifyBody]
        refine congrArg p.modifyBody (funext fun body => ?_)
        rw [appendText_appendText]
        rfl
      rw [Token.scan_text opens, List.foldlM_cons, List.takeWhile_cons, List.dropWhile_cons, opens]
      simp only [Bool.not_false, ↓reduceIte, advance, Option.bind_eq_bind, Option.bind_some, merge]

end TitleTemplate
