import TitleTemplate.Legacy.Conversion
import TitleTemplate.Proofs.Legacy.HeadReading

/-!
What a construct is rewritten to spells one node, if it can be read at all: the output of what the
head names, or a conditional on what the head asks.
-/
namespace TitleTemplate.Legacy

variable {limit : Nat}

theorem head_operand {h : Head} (written : h.Written) :
    ∃ c rest, h.operand = c :: rest ∧ isWordChar c = true := by
  obtain ⟨some, word⟩ := path_word written
  cases path : h.path with
  | nil => exact absurd path some
  | cons c more =>
    refine ⟨c, more ++ h.steps.flatMap Step.write, by rw [Head.operand, path]; rfl, ?_⟩
    exact word c (by rw [path]; exact List.mem_cons_self)

theorem not_open_of_word {c : Char} (word : isWordChar c = true) : c ≠ '\x7b' :=
  (isWordChar_iff.1 word).2.2.1

theorem not_blank_of_word {c : Char} (word : isWordChar c = true) : isBlank c = false :=
  not_blank_of_inside (isWordChar_iff.1 word).1

theorem operand_single {h : Head} (written : h.Written) : h.operand.head? ≠ some '\x7b' := by
  obtain ⟨c, rest, shape, word⟩ := head_operand written
  rw [shape]
  intro same
  exact not_open_of_word word (Option.some.inj same)

theorem operand_not_blank {h : Head} (written : h.Written) : h.operand.all isBlank = false := by
  obtain ⟨c, rest, shape, word⟩ := head_operand written
  rw [shape, List.all_cons, not_blank_of_word word, Bool.false_and]

theorem keyword_operand {h : Head} (written : h.Written) {keyword : List Char}
    (plain : '|' ∉ keyword)
    (first : (skipBlanks h.operand).takeWhile (!isBlank ·) = keyword) :
    h.steps = [] ∧ h.path = keyword := by
  obtain ⟨some, word⟩ := path_word written
  have noBlank : ∀ c ∈ h.path, (!isBlank c) = true := fun c member => by
    rw [not_blank_of_word (word c member)]
    rfl
  have skipped : skipBlanks h.operand = h.operand := by
    obtain ⟨c, rest, shape, word⟩ := head_operand written
    rw [shape, skipBlanks, List.dropWhile_cons, not_blank_of_word word]
    rfl
  rw [skipped, Head.operand, List.takeWhile_append_of_pos noBlank] at first
  cases steps : h.steps with
  | nil =>
    rw [steps] at first
    exact ⟨rfl, by simpa using first⟩
  | cons s ss =>
    rw [steps] at first
    have pipe : (!isBlank '|') = true := by decide
    have shape : (s :: ss).flatMap Step.write =
        '|' :: ((s.write.drop 1) ++ ss.flatMap Step.write) := rfl
    rw [shape, List.takeWhile_cons, if_pos pipe] at first
    exact absurd (first ▸ List.mem_append_right _ List.mem_cons_self) plain

theorem directive_operand {h : Head} (written : h.Written) :
    Directive.of h.operand = .output ∨
      h.steps = [] ∧ h.path ∈ ["if".toList, "elif".toList, "else".toList] := by
  have stands : ∀ keyword : String, '|' ∉ keyword.toList →
      String.ofList ((skipBlanks h.operand).takeWhile (!isBlank ·)) = keyword →
      h.steps = [] ∧ h.path = keyword.toList := by
    intro keyword plain same
    refine keyword_operand written plain ?_
    rw [← same, String.toList_ofList]
  simp only [Directive.of]
  split_ifs with isIf isElif isElse isEnd
  · obtain ⟨none, path⟩ := stands "if" (by decide) isIf
    exact Or.inr ⟨none, by simp [path]⟩
  · obtain ⟨none, path⟩ := stands "elif" (by decide) isElif
    exact Or.inr ⟨none, by simp [path]⟩
  · obtain ⟨none, path⟩ := stands "else" (by decide) isElse.1
    exact Or.inr ⟨none, by simp [path]⟩
  · obtain ⟨_, path⟩ := stands "/if" (by decide) isEnd.1
    have segments := written.path
    rw [path] at segments
    exact absurd segments (by decide +kernel)
  · exact Or.inl rfl

theorem isReadable_iff {text : List Char} :
    isReadable text = true ↔
      ∃ nodes, parse Limits.default.depth (String.ofList text) = .ok nodes := by
  rw [isReadable]
  cases parse Limits.default.depth (String.ofList text) with
  | ok nodes => exact ⟨fun _ => ⟨nodes, rfl⟩, fun _ => rfl⟩
  | error fault =>
    constructor
    · intro found
      cases found
    · rintro ⟨nodes, same⟩
      cases same

theorem itemOf_operand {h : Head} (written : h.Written)
    (kind : Directive.of h.operand = .output) :
    itemOf limit h.operand = some (.output h.target) := by
  have lexed : plainLexed h.operand = ⟨unplaced h.operandLexemes, none, default⟩ := by
    rw [← List.append_nil h.operand, plainLexed_operand written endsWord_nil, plainLexed_nil,
      putAll_nothing]
  have read : Reading.output ⟨default, none, limit⟩ (unplaced h.operandLexemes) = .ok h.target :=
    output_read _ written rfl
  rw [itemOf, Item.read, operand_not_blank written, kind, lexed]
  simp only [Bool.false_eq_true, ↓reduceIte, Lexed.reading, Option.map_none, read]
  rfl

def Head.opening (h : Head) : List Char := "if ".toList ++ h.condition

theorem directive_opening (h : Head) : Directive.of h.opening = .openIf :=
  directive_if h.condition

theorem plainLexed_opening {h : Head} (written : h.Written) :
    plainLexed h.opening = ⟨unplaced (.word "if" :: h.lexemes), none, default⟩ := by
  rw [Head.opening, plainLexed_if, plainLexed_condition written, putAll_nothing]
  rfl

theorem enclosed_opening {h : Head} (written : h.Written) : Enclosed h.opening :=
  enclosed_if (enclosed_condition written)

theorem opening_single (h : Head) : h.opening.head? ≠ some '\x7b' := if_single h.condition

theorem guarded_head (r : Reading) (h : Head) (first : Lexeme × Span) :
    r.guarded "if" (first :: unplaced h.lexemes) = r.condition (unplaced h.lexemes) := by
  have some : ∃ l ls, h.lexemes = l :: ls := by
    rw [Head.lexemes]
    cases h.check with
    | none => exact ⟨_, _, rfl⟩
    | some check => cases check <;> exact ⟨_, _, rfl⟩
  obtain ⟨l, ls, shape⟩ := some
  rw [shape]
  rfl

theorem itemOf_opening_eq {h : Head} (written : h.Written) :
    itemOf limit h.opening =
      (Reading.condition ⟨default, none, limit⟩ (unplaced h.lexemes)).toOption.map Item.openIf := by
  have some : h.opening.all isBlank = false := rfl
  have read : Reading.guarded ⟨default, none, limit⟩ "if" (unplaced (.word "if" :: h.lexemes)) =
      Reading.condition ⟨default, none, limit⟩ (unplaced h.lexemes) := guarded_head _ h _
  rw [itemOf, Item.read, some, directive_opening, plainLexed_opening written]
  simp only [Bool.false_eq_true, ↓reduceIte, Lexed.reading, Option.map_none, read]
  cases Reading.condition ⟨default, none, limit⟩ (unplaced h.lexemes) <;> rfl

theorem itemOf_opening {h : Head} (written : h.Written) (other : h.path ≠ "not".toList)
    (room : 2 ≤ limit) : itemOf limit h.opening = some (.openIf h.guard) := by
  rw [itemOf_opening_eq written, condition_read _ written other room rfl]
  rfl

theorem itemOf_opening_not {h : Head} (written : h.Written) (keyword : h.path = "not".toList) :
    itemOf limit h.opening = none := by
  obtain ⟨fault, failed⟩ := condition_unread ⟨default, none, limit⟩ keyword
  rw [itemOf_opening_eq written, failed]
  rfl

theorem unreadable_of_itemOf {inner tail : List Char} (enclosed : Enclosed inner)
    (single : inner.head? ≠ some '\x7b') (unread : itemOf Limits.default.depth inner = none) :
    isReadable (braced inner ++ tail) = false := by
  by_contra readable
  rw [Bool.not_eq_false, isReadable_iff] at readable
  obtain ⟨nodes, parsed⟩ := readable
  have read := outline_of_parse parsed
  rw [outline_braced enclosed single, advance_none unread] at read
  cases read

theorem operand_spells {h : Head} (written : h.Written)
    (readable : isReadable (braced h.operand) = true) :
    Spells Limits.default.depth 0 (braced h.operand) [.output h.target default] := by
  rcases directive_operand written with kind | ⟨none, path⟩
  · exact spells_output (enclosed_operand written) (operand_single written)
      (itemOf_operand written kind)
  · have keyword : h.operand = h.path := by rw [Head.operand, none]; simp
    have unreadable : ∀ word ∈ ["if".toList, "elif".toList, "else".toList],
        isReadable (braced word) = false := by
      decide +kernel
    rw [keyword, unreadable h.path path] at readable
    cases readable

theorem conditional_eq (h : Head) (a b : List Char) :
    conditional h a b =
      braced h.opening ++ (a ++ ((if b = [] then [] else braced "else".toList ++ b) ++
        braced "/if".toList)) := by
  unfold conditional
  split
  all_goals simp [braced, Head.opening]

def restArms (text : List Char) (nodes : List Node) : Arms :=
  if text = [] then .done else .otherwise nodes

theorem fits_of_readable {height : Nat} {text : List Char} {ns : List Node}
    (spells : Spells Limits.default.depth height text ns) (readable : isReadable text = true) :
    height ≤ Limits.default.depth := by
  obtain ⟨nodes, parsed⟩ := isReadable_iff.1 readable
  exact spells_fits spells parsed

theorem conditional_spells {h : Head} (written : h.Written) {height k : Nat} {a b : List Char}
    {ns ms : List Node} (readable : isReadable (conditional h a b) = true)
    (first : Spells Limits.default.depth height a ns)
    (second : Spells Limits.default.depth k b ms) :
    height ≤ Limits.default.depth ∧ k ≤ Limits.default.depth ∧ ∃ total,
      Spells Limits.default.depth total (conditional h a b)
        [.conditional (.guarded h.guard (merged ns) (restArms b (merged ms))) default] := by
  have enclosed := enclosed_opening written
  have single := opening_single h
  have other : h.path ≠ "not".toList := by
    intro keyword
    rw [conditional_eq, unreadable_of_itemOf enclosed single (itemOf_opening_not written keyword)]
      at readable
    cases readable
  have read : itemOf Limits.default.depth h.opening = some (.openIf h.guard) :=
    itemOf_opening written other (by decide)
  by_cases empty : b = []
  · -- A branch that is left out may still have been read, but it is empty.
    subst empty
    have nothing : isReadable [] = true := by
      obtain ⟨nodes, parsed, _⟩ := parse_of_spells spells_nil (Nat.zero_le Limits.default.depth)
      exact isReadable_iff.2 ⟨nodes, parsed⟩
    have none := fits_of_readable second nothing
    have spells : Spells Limits.default.depth (height + 1) (conditional h a [])
        [.conditional (.guarded h.guard (merged ns) .done) default] := by
      rw [conditional_eq, if_pos rfl]
      exact spells_conditional enclosed single read first
    have fits := fits_of_readable spells readable
    rw [restArms, if_pos rfl]
    exact ⟨Nat.le_of_succ_le fits, none, height + 1, spells⟩
  · have spells : Spells Limits.default.depth (max height k + 1) (conditional h a b)
        [.conditional (.guarded h.guard (merged ns) (.otherwise (merged ms))) default] := by
      rw [conditional_eq, if_neg empty, List.append_assoc]
      exact spells_alternative enclosed single read first second
    have fits := fits_of_readable spells readable
    rw [restArms, if_neg empty]
    exact ⟨by omega, by omega, max height k + 1, spells⟩

end TitleTemplate.Legacy
