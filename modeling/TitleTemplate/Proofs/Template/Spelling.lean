import TitleTemplate.Proofs.Template.Outline

/-!
What texts spell. A text spells nodes when reading it anywhere adds these nodes to what is being
read, as long as the conditionals in it do not nest deeper than the limit allows there, and fails
when they do. Texts that spell something can be put one after the other and into the arms of a
conditional; nothing else has to be known about their seams.
-/
namespace TitleTemplate

/-- A text that does not end the expression it stands in. -/
def Enclosed (cs : List Char) : Prop :=
  ∀ tail, splitAtClose (cs ++ tail) =
    (splitAtClose tail).map fun found => (cs ++ found.1, found.2)

theorem enclosed_nil : Enclosed [] := by
  intro tail
  cases h : splitAtClose tail <;> simp [h]

theorem enclosed_append {a b : List Char} (ha : Enclosed a) (hb : Enclosed b) :
    Enclosed (a ++ b) := by
  intro tail
  rw [List.append_assoc, ha, hb]
  cases splitAtClose tail <;> simp

theorem enclosed_char {c : Char} (noClose : c ≠ '\x7d') (noEscape : c ≠ '\\') : Enclosed [c] := by
  intro tail
  rw [List.singleton_append, splitAtClose]
  · rfl
  · exact noClose
  · intro d rest same
    exact absurd same noEscape

theorem enclosed_escape (c : Char) : Enclosed ['\\', c] := by
  intro tail
  simp [splitAtClose]

/-- Whether a character neither ends an expression nor escapes what comes next. -/
def isInner (c : Char) : Bool := c != '\x7d' && c != '\\'

theorem enclosed_of_all {cs : List Char} (inner : cs.all isInner = true) : Enclosed cs := by
  induction cs with
  | nil => exact enclosed_nil
  | cons c cs ih =>
    rw [List.all_cons, Bool.and_eq_true] at inner
    obtain ⟨notClose, notEscape⟩ := Bool.and_eq_true_iff.1 inner.1
    exact enclosed_append (enclosed_char (bne_iff_ne.1 notClose) (bne_iff_ne.1 notEscape))
      (ih inner.2)

theorem enclosed_flatMap {α : Type} {write : α → List Char} {xs : List α}
    (each : ∀ x ∈ xs, Enclosed (write x)) : Enclosed (xs.flatMap write) := by
  induction xs with
  | nil => exact enclosed_nil
  | cons x xs ih =>
    rw [List.flatMap_cons]
    exact enclosed_append (each x List.mem_cons_self)
      (ih fun y member => each y (List.mem_cons_of_mem x member))

def braced (inner : List Char) : List Char := '\x7b' :: (inner ++ ['\x7d'])

theorem scan_braced {inner : List Char} (enclosed : Enclosed inner)
    (single : inner.head? ≠ some '\x7b') (tail : List Char) :
    Token.scan (braced inner ++ tail) = .expression inner :: Token.scan tail := by
  have found : splitAtClose (inner ++ '\x7d' :: tail) = some (inner, tail) := by
    rw [enclosed, splitAtClose]
    simp
  have shape : braced inner ++ tail = '\x7b' :: (inner ++ '\x7d' :: tail) := by simp [braced]
  rw [shape]
  cases body : inner ++ '\x7d' :: tail with
  | nil => simp at body
  | cons d after =>
    have closed : isOpen d = false := by
      cases inner with
      | nil =>
        obtain ⟨rfl, _⟩ := List.cons.inj body
        decide
      | cons e inner =>
        obtain ⟨rfl, _⟩ := List.cons.inj body
        simpa [isOpen] using single
    rw [body] at found
    exact Token.scan_closed closed found

theorem outline_braces (limit : Nat) (p : Progress) (tail : List Char) :
    outline limit p ('\x7b' :: '\x7b' :: tail) = outline limit (p.push [charNode '\x7b']) tail := by
  rw [outline, outline, Token.scan_braces, push_char, List.foldlM_cons]
  rfl

theorem outline_braced {limit : Nat} {inner : List Char} (enclosed : Enclosed inner)
    (single : inner.head? ≠ some '\x7b') (p : Progress) (tail : List Char) :
    outline limit p (braced inner ++ tail) =
      (advance limit p (.expression inner)).bind fun q => outline limit q tail := by
  rw [outline, scan_braced enclosed single, List.foldlM_cons]
  rfl

def Item.directive : Item → Directive
  | .output _ => .output
  | .openIf _ => .openIf
  | .elseIf _ => .elseIf
  | .otherwise => .otherwise
  | .closeIf => .closeIf

theorem directive_of_item {limit : Nat} {inner : List Char} {item : Item}
    (read : itemOf limit inner = some item) : Directive.of inner = item.directive := by
  rw [itemOf, Item.read] at read
  split at read
  · cases read
  · cases kind : Directive.of inner with
    | output =>
      rw [kind] at read
      simp only [toOption_bind, Option.bind_eq_some_iff] at read
      obtain ⟨operand, _, same⟩ := read
      cases same
      rfl
    | openIf =>
      rw [kind] at read
      simp only [toOption_bind, Option.bind_eq_some_iff] at read
      obtain ⟨guard, _, same⟩ := read
      cases same
      rfl
    | elseIf =>
      rw [kind] at read
      simp only [toOption_bind, Option.bind_eq_some_iff] at read
      obtain ⟨guard, _, same⟩ := read
      cases same
      rfl
    | otherwise =>
      rw [kind] at read
      cases read
      rfl
    | closeIf =>
      rw [kind] at read
      cases read
      rfl

theorem advance_item {limit : Nat} {inner : List Char} {item : Item}
    (read : itemOf limit inner = some item) (p : Progress) :
    advance limit p (.expression inner) =
      if item.directive = .openIf ∧ limit ≤ p.blocks.length then none
      else (p.place item default).toOption := by
  have kind := directive_of_item read
  rw [advance, Progress.takeIn, toOption_bind, Progress.checkDepth, kind]
  split
  · rfl
  · change (Item.read limit inner (plainLexed inner) default >>= fun item =>
      p.place item default).toOption = _
    rw [toOption_bind, ← itemOf, read]
    rfl

theorem advance_none {limit : Nat} {inner : List Char} (unread : itemOf limit inner = none)
    (p : Progress) : advance limit p (.expression inner) = none := by
  rw [advance, Progress.takeIn, toOption_bind, toOption_bind, ← itemOf, unread]
  cases (p.checkDepth limit inner default).toOption <;> rfl

/-- Reading the text adds the nodes, just when no more than `height` conditionals fit on top of
those that are open. -/
def Spells (limit height : Nat) (cs : List Char) (ns : List Node) : Prop :=
  ∀ (p : Progress) (tail : List Char), p.blocks.length ≤ limit →
    outline limit p (cs ++ tail) =
      if p.blocks.length + height ≤ limit then outline limit (p.push ns) tail else none

variable {limit : Nat}

theorem spells_nil : Spells limit 0 [] [] := by
  intro p tail room
  rw [List.nil_append, push_nil, Nat.add_zero, if_pos room]

theorem spells_char {c : Char} (notOpen : isOpen c = false) : Spells limit 0 [c] [charNode c] := by
  intro p tail room
  rw [List.singleton_append, outline_char limit p notOpen, Nat.add_zero, if_pos room]

theorem spells_brace : Spells limit 0 ['\x7b', '\x7b'] [charNode '\x7b'] := by
  intro p tail room
  rw [Nat.add_zero, if_pos room]
  exact outline_braces limit p tail

theorem spells_append {h k : Nat} {a b : List Char} {ns ms : List Node}
    (first : Spells limit h a ns) (second : Spells limit k b ms) :
    Spells limit (max h k) (a ++ b) (ns ++ ms) := by
  intro p tail room
  rw [List.append_assoc, first p _ room]
  by_cases fits : p.blocks.length + h ≤ limit
  · rw [if_pos fits, second _ _ (by rw [push_blocks_length]; exact room), push_blocks_length,
      push_push]
    by_cases more : p.blocks.length + k ≤ limit
    · rw [if_pos more, if_pos (by omega)]
    · rw [if_neg more, if_neg (by omega)]
  · rw [if_neg fits, if_neg (by omega)]

theorem spells_output {inner : List Char} {operand : Operand} (enclosed : Enclosed inner)
    (single : inner.head? ≠ some '\x7b') (read : itemOf limit inner = some (.output operand)) :
    Spells limit 0 (braced inner) [.output operand default] := by
  intro p tail room
  rw [outline_braced enclosed single, advance_item read, if_neg (by simp [Item.directive]),
    Nat.add_zero, if_pos room]
  rfl

theorem itemOf_else : itemOf limit "else".toList = some .otherwise := by
  have kind : Directive.of "else".toList = .otherwise := by decide
  have some : "else".toList.all isBlank = false := by decide
  rw [itemOf, Item.read, kind, some]
  rfl

theorem itemOf_end : itemOf limit "/if".toList = some .closeIf := by
  have kind : Directive.of "/if".toList = .closeIf := by decide
  have some : "/if".toList.all isBlank = false := by decide
  rw [itemOf, Item.read, kind, some]
  rfl

theorem enclosed_else : Enclosed "else".toList := enclosed_of_all (by decide)

theorem enclosed_end : Enclosed "/if".toList := enclosed_of_all (by decide)

theorem outline_open {inner : List Char} {guard : Condition} (enclosed : Enclosed inner)
    (single : inner.head? ≠ some '\x7b') (read : itemOf limit inner = some (.openIf guard))
    (p : Progress) (tail : List Char) :
    outline limit p (braced inner ++ tail) =
      if limit ≤ p.blocks.length then none
      else outline limit { p with blocks := ⟨default, [], some guard, []⟩ :: p.blocks } tail := by
  rw [outline_braced enclosed single, advance_item read]
  by_cases deep : limit ≤ p.blocks.length
  · rw [if_pos deep, if_pos ⟨rfl, deep⟩]
    rfl
  · rw [if_neg deep, if_neg fun both => deep both.2]
    rfl

theorem outline_else (p : Progress) (opened : Span) (finished : List (Condition × List Node))
    (guard : Condition) (body : List Node) (blocks : List OpenBlock) (tail : List Char) :
    outline limit { p with blocks := ⟨opened, finished, some guard, body⟩ :: blocks }
        (braced "else".toList ++ tail) =
      outline limit
        { p with blocks := ⟨opened, (guard, body.reverse) :: finished, none, []⟩ :: blocks }
        tail := by
  rw [outline_braced enclosed_else (by decide), advance_item itemOf_else]
  rfl

theorem outline_end (p : Progress) (b : OpenBlock) (blocks : List OpenBlock) (tail : List Char) :
    outline limit { p with blocks := b :: blocks } (braced "/if".toList ++ tail) =
      outline limit ({ p with blocks := blocks }.push
        [.conditional b.arms (b.opened.upTo default)]) tail := by
  rw [outline_braced enclosed_end (by decide), advance_item itemOf_end]
  rfl

theorem spells_conditional {h : Nat} {inner a : List Char} {guard : Condition} {ns : List Node}
    (enclosed : Enclosed inner) (single : inner.head? ≠ some '\x7b')
    (read : itemOf limit inner = some (.openIf guard)) (body : Spells limit h a ns) :
    Spells limit (h + 1) (braced inner ++ (a ++ braced "/if".toList))
      [.conditional (.guarded guard (merged ns) .done) default] := by
  intro p tail room
  rw [List.append_assoc, outline_open enclosed single read, List.append_assoc]
  by_cases deep : limit ≤ p.blocks.length
  · rw [if_pos deep, if_neg (by omega)]
  · rw [if_neg deep, body _ _ (by rw [List.length_cons]; omega), List.length_cons]
    by_cases fits : p.blocks.length + 1 + h ≤ limit
    · rw [if_pos fits, if_pos (by omega)]
      exact outline_end p ⟨default, [], some guard, pushNodes ns []⟩ p.blocks tail
    · rw [if_neg fits, if_neg (by omega)]

theorem spells_alternative {h k : Nat} {inner a b : List Char} {guard : Condition}
    {ns ms : List Node} (enclosed : Enclosed inner) (single : inner.head? ≠ some '\x7b')
    (read : itemOf limit inner = some (.openIf guard)) (first : Spells limit h a ns)
    (second : Spells limit k b ms) :
    Spells limit (max h k + 1)
      (braced inner ++ (a ++ (braced "else".toList ++ (b ++ braced "/if".toList))))
      [.conditional (.guarded guard (merged ns) (.otherwise (merged ms))) default] := by
  intro p tail room
  rw [List.append_assoc, outline_open enclosed single read, List.append_assoc]
  by_cases deep : limit ≤ p.blocks.length
  · rw [if_pos deep, if_neg (by omega)]
  · rw [if_neg deep, first _ _ (by rw [List.length_cons]; omega), List.length_cons]
    by_cases fits : p.blocks.length + 1 + h ≤ limit
    · rw [if_pos fits, List.append_assoc]
      refine (outline_else p default [] guard (pushNodes ns []) p.blocks
        ((b ++ braced "/if".toList) ++ tail)).trans ?_
      rw [List.append_assoc, second _ _ (by rw [List.length_cons]; omega), List.length_cons]
      by_cases more : p.blocks.length + 1 + k ≤ limit
      · rw [if_pos more, if_pos (by omega)]
        exact outline_end p ⟨default, [(guard, merged ns)], none, pushNodes ms []⟩ p.blocks tail
      · rw [if_neg more, if_neg (by omega)]
    · rw [if_neg fits, if_neg (by omega)]

/-- A text that spells something is a template when its conditionals fit, and only then. -/
theorem spells_closed {h : Nat} {cs : List Char} {ns : List Node} (spells : Spells limit h cs ns) :
    (outline limit .start cs).bind Progress.closed? =
      if h ≤ limit then some (merged ns) else none := by
  have run := spells .start [] (Nat.zero_le limit)
  rw [List.append_nil, outline_nil] at run
  rw [run]
  have none : Progress.start.blocks.length = 0 := rfl
  rw [none, Nat.zero_add]
  split <;> rfl

theorem parse_of_spells {h : Nat} {cs : List Char} {ns : List Node} (spells : Spells limit h cs ns)
    (fits : h ≤ limit) :
    ∃ nodes, parse limit (String.ofList cs) = .ok nodes ∧ plainNodes nodes = merged ns := by
  refine parse_of_outline ?_
  rw [spells_closed spells, if_pos fits]

theorem spells_fits {h : Nat} {cs : List Char} {ns nodes : List Node}
    (spells : Spells limit h cs ns) (parsed : parse limit (String.ofList cs) = .ok nodes) :
    h ≤ limit := by
  have read := outline_of_parse parsed
  rw [spells_closed spells] at read
  by_contra deep
  rw [if_neg deep] at read
  cases read

end TitleTemplate
