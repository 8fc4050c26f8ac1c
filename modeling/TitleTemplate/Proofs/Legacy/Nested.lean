import TitleTemplate.Proofs.Legacy.Walking
import TitleTemplate.Proofs.Template.Outputs

/-!
Constructs in the branches of each other. As long as none of them stands too deep, all of them are
converted, each around what the text in its branch has become.
-/
namespace TitleTemplate.Legacy

def wrapped (before after : List Char) : Nat → List Char → List Char
  | 0, x => x
  | n + 1, x => before ++ (wrapped before after n x ++ after)

theorem wrapped_add (before after : List Char) (m n : Nat) (x : List Char) :
    wrapped before after (m + n) x = wrapped before after m (wrapped before after n x) := by
  induction m with
  | zero => rw [Nat.zero_add, wrapped]
  | succ m ih => rw [Nat.succ_add, wrapped, ih, wrapped]

theorem wrapped_eq (before after : List Char) (n : Nat) (x : List Char) :
    wrapped before after n x =
      (List.replicate n before).flatten ++ (x ++ (List.replicate n after).flatten) := by
  induction n with
  | zero => simp [wrapped]
  | succ n ih =>
    rw [wrapped, ih, List.replicate_succ, List.replicate_succ', List.flatten_cons,
      List.flatten_concat]
    simp only [List.append_assoc]

theorem wrapped_inj {before after : List Char} {n : Nat} {x y : List Char}
    (same : wrapped before after n x = wrapped before after n y) : x = y := by
  rw [wrapped_eq, wrapped_eq] at same
  exact List.append_cancel_right (List.append_cancel_left same)

/-- The head of a construct that asks for a flag, with the bracket after it. -/
def asked : List Char := "a::istrue[".toList

/-- The beginning of a construct that is inside of others, up to its branch. -/
def opener : List Char := '\x7b' :: (asked ++ ['"'])

def flagHead : Head := ⟨['a'], [], some .truthy⟩

theorem read_asked (rest : List Char) :
    Head.read (asked ++ rest) = some (flagHead, '[' :: rest) := by
  have shape : asked ++ rest = 'a' :: ':' :: ':' :: ("istrue[".toList ++ rest) := rfl
  have steps : readSteps (':' :: ':' :: ("istrue[".toList ++ rest)) =
      some ([], some .truthy, '[' :: rest) := by
    rw [readSteps]
    rfl
  have inside : isPathChar 'a' = true := by decide
  have ends : ¬ isPathChar ':' = true := by decide
  rw [shape, head_read_eq, List.takeWhile_cons_of_pos inside, List.takeWhile_cons_of_neg ends,
    List.dropWhile_cons_of_pos inside, List.dropWhile_cons_of_neg ends, steps,
    if_pos (by decide)]
  rfl

theorem plainLexed_asked (more : List Char) :
    plainLexed (asked ++ '"' :: more) =
      (plainLexed ('"' :: more)).put (.word (String.ofList asked)) := by
  have word : asked.all (fun c => decide (endsWordAt c = false ∧ c ≠ '\\')) = true := by decide
  refine plainLexed_unbroken (by decide) (fun c member => ?_) (endsWord_cons (by decide) more)
  exact of_decide_eq_true (List.all_eq_true.1 word c member)

/-- The colons are no part of a path, so this is not the beginning of an output. -/
theorem itemOf_asked (limit : Nat) (more : List Char) (operand : Operand) :
    itemOf limit (asked ++ '"' :: more) ≠ some (.output operand) := by
  have noPath : (splitAtChar '.' (String.ofList asked).toList).all isSegment = false := by
    rw [String.toList_ofList]
    decide
  intro same
  rw [itemOf] at same
  cases read : Item.read limit (asked ++ '"' :: more) (plainLexed (asked ++ '"' :: more))
      default with
  | error fault =>
    rw [read] at same
    cases same
  | ok item =>
    rw [read] at same
    obtain rfl := Option.some.inj same
    have taken := (Reading.output_iff.1 (output_of_read read)).2
    rw [plainLexed_asked] at taken
    obtain ⟨_, named, _⟩ := taken
    rw [(isPath_iff.1 named).1] at noPath
    cases noPath

theorem keptSpan_asked (rest : List Char) : keptSpan (asked ++ '"' :: rest) = none := by
  cases kept : keptSpan (asked ++ '"' :: rest) with
  | none => rfl
  | some n =>
    obtain ⟨inner, after, shape, _, span⟩ := keptSpan_iff.1 kept
    obtain ⟨operand, read⟩ := outputSpan_item span
    have noClose : '\x7d' ∉ asked ++ ['"'] := by decide
    have whole : (asked ++ ['"']) ++ rest = inner ++ '\x7d' :: after := by
      rw [List.append_assoc]
      exact shape
    rcases List.append_eq_append_iff.1 whole with ⟨more, rfl, _⟩ | ⟨more, front, back⟩
    · rw [List.append_assoc] at read
      exact absurd read (itemOf_asked _ more operand)
    · cases more with
      | nil =>
        rw [List.append_nil] at front
        rw [← front] at read
        exact absurd read (itemOf_asked _ [] operand)
      | cons c more =>
        obtain ⟨rfl, _⟩ := List.cons.inj back
        exact absurd (front ▸ List.mem_append_right _ List.mem_cons_self) noClose

def ifFlag : List Char := braced flagHead.opening

def endIf : List Char := braced "/if".toList

theorem conditional_flag (text : List Char) :
    conditional flagHead text [] = ifFlag ++ (text ++ endIf) := by
  rw [conditional_eq, if_pos rfl]
  rfl

theorem written_flag : flagHead.Written := ⟨by decide, by simp [flagHead]⟩

theorem itemOf_flag :
    itemOf Limits.default.depth flagHead.opening = some (.openIf flagHead.guard) :=
  itemOf_opening written_flag (by decide) (by decide)

theorem spells_nested {h : Nat} {x : List Char} {nodes : List Node}
    (spells : Spells Limits.default.depth h x nodes) (n : Nat) :
    ∃ nodes, Spells Limits.default.depth (h + n) (wrapped ifFlag endIf n x) nodes := by
  induction n with
  | zero => exact ⟨nodes, spells⟩
  | succ n ih =>
    obtain ⟨_, body⟩ := ih
    exact ⟨_, spells_conditional (enclosed_opening written_flag) (opening_single _) itemOf_flag
      body⟩

theorem readable_of_spells {h : Nat} {x : List Char} {nodes : List Node}
    (spells : Spells Limits.default.depth h x nodes) (fits : h ≤ Limits.default.depth) :
    isReadable x = true := by
  obtain ⟨nodes, parsed, _⟩ := parse_of_spells spells fits
  exact isReadable_iff.2 ⟨nodes, parsed⟩

theorem readable_nested {h n : Nat} {x : List Char} {nodes : List Node}
    (spells : Spells Limits.default.depth h x nodes) (fits : h + n ≤ Limits.default.depth) :
    isReadable (wrapped ifFlag endIf n x) = true := by
  obtain ⟨_, whole⟩ := spells_nested spells n
  exact readable_of_spells whole fits

/-- What a text between the quotes of a construct becomes, when the construct stands in the
branches of one less than so many others and nothing in it has been read before. -/
def Becomes (depth : Nat) (body text : List Char) : Prop :=
  ∀ offset notes tail, Notes.Fresh offset notes → ∃ after,
    branchFrom (construct depth) '"' offset (body ++ (branchEnd ++ tail)) notes =
      (some ⟨body.length + 1, text⟩, after)

/-- A text without anything that is special in templates or in branches. -/
def IsText (x : List Char) : Prop :=
  ∀ c ∈ x, c ≠ '\x7b' ∧ c ≠ '\x7d' ∧ c ≠ '\\' ∧ isQuote c = false

instance : DecidablePred IsText := fun x => List.decidableBAll
  (fun c => c ≠ '\x7b' ∧ c ≠ '\x7d' ∧ c ≠ '\\' ∧ isQuote c = false) x

theorem spells_text {limit : Nat} {x : List Char} (text : IsText x) :
    ∃ nodes, Spells limit 0 x nodes := spells_closed_text fun c member => (text c member).1

theorem becomes_text {x : List Char} (text : IsText x) (depth : Nat) : Becomes depth x x := by
  intro offset notes tail _
  have plain : x.all isPlain = true := List.all_eq_true.2 fun c member =>
    let ⟨notOpen, _, noEscape, noQuote⟩ := text c member
    isPlain_iff.2 ⟨noEscape, notOpen, noQuote⟩
  rw [branchFrom_plain (by decide) plain, branchFrom_branchEnd]
  exact ⟨notes, by simp [Converted.prepend]⟩

variable {body text : List Char} {depth offset : Nat} {notes : Notes}

def contents (offset : Nat) : Nat := offset + opener.length

/-- What a construct is converted to that stands in so many others and has not been read before. -/
def Finds (depth : Nat) (front text : List Char) : Prop :=
  ∀ offset notes tail, Notes.Fresh offset notes → ∃ later,
    construct depth offset (front ++ tail) notes = (some ⟨front.length, text⟩, later)

theorem becomes_of_finds {front : List Char} (finds : Finds depth front text) :
    Becomes depth ('\x7b' :: front) text := by
  intro offset notes tail fresh
  obtain ⟨later, found⟩ := finds offset notes (branchEnd ++ tail) fresh
  rw [List.cons_append, branchFrom_brace, found]
  dsimp only
  rw [List.drop_left, branchFrom_branchEnd]
  refine ⟨later, ?_⟩
  simp [Converted.prepend, Nat.add_comm]

theorem opener_append (body : List Char) : opener ++ body = '\x7b' :: (asked ++ '"' :: body) := by
  simp [opener]

theorem finds_asked (becomes : Becomes (depth + 1) body text) (shallow : depth ≤ maxDepth)
    (readable : isReadable (ifFlag ++ (text ++ endIf)) = true) :
    Finds depth (asked ++ '"' :: (body ++ branchEnd)) (ifFlag ++ (text ++ endIf)) := by
  intro offset notes tail fresh
  obtain ⟨after, whenTrue⟩ := becomes (contents offset) notes tail
    (fresh_later fresh (Nat.le_add_right _ _))
  have source : asked ++ '"' :: (body ++ branchEnd) ++ tail =
      asked ++ '"' :: (body ++ (branchEnd ++ tail)) := by simp
  have ends : (body ++ (branchEnd ++ tail)).drop (body.length + 1) = ']' :: '\x7d' :: tail := by
    rw [List.drop_length_add_append]
    rfl
  have found : readConstruct (construct (depth + 1)) offset
      (asked ++ '"' :: (body ++ (branchEnd ++ tail))) notes = _ :=
    readConstruct_single (by decide) (read_asked _) whenTrue ends
  rw [construct_read _ (fresh offset (Nat.le_refl offset)) (Nat.not_lt.2 shallow), source, found,
    ← source, List.length_append, Nat.add_sub_cancel, conditional_flag]
  simp only [Option.filter_some, readable, ↓reduceIte]
  exact ⟨_, rfl⟩

theorem becomes_nested {h k : Nat} {nodes : List Node} (becomes : Becomes (depth + k) body text)
    (shallow : depth + k ≤ maxDepth + 1) (spells : Spells Limits.default.depth h text nodes)
    (fits : h + k ≤ Limits.default.depth) :
    Becomes depth (wrapped opener branchEnd k body) (wrapped ifFlag endIf k text) := by
  induction k generalizing depth with
  | zero => exact becomes
  | succ k ih =>
    have next : depth + (k + 1) = depth + 1 + k := by omega
    rw [next] at becomes shallow
    have inner := ih becomes shallow (Nat.le_of_succ_le fits)
    rw [wrapped, opener_append]
    exact becomes_of_finds (finds_asked inner (by omega)
      (readable_nested (n := k + 1) spells fits))

end TitleTemplate.Legacy
