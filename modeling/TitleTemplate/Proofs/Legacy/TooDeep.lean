import TitleTemplate.Proofs.Legacy.Nested

/-!
Constructs in the branches of each other, of which some stand too deep. One that does is refused,
and then the branch around it ends at the quote that should have opened a branch of its own; so all
that are around it fail with it, down to the outermost. Reading goes on behind them as if they were
not there.
-/
namespace TitleTemplate.Legacy

variable {x : List Char} {depth offset : Nat} {notes after : Notes}

def bars : List Char := ['|', '|']

/-- What comes after a refused construct ends no construct and begins no second branch. -/
theorem wrapped_unended (text : IsText x) {k : Nat} (noSeam : k = 0 → x ≠ bars)
    (tail : List Char) :
    (∀ t, wrapped opener branchEnd k x ++ (branchEnd ++ tail) ≠ ']' :: '\x7d' :: t) ∧
      ∀ c t, wrapped opener branchEnd k x ++ (branchEnd ++ tail) = '|' :: '|' :: c :: t →
        isQuote c = false := by
  cases k with
  | succ k =>
    constructor
    · intro t same
      exact absurd (List.cons.inj same).1 (by decide)
    · intro c t same
      exact absurd (List.cons.inj same).1 (by decide)
  | zero =>
    rw [wrapped]
    constructor
    · rcases x with _ | ⟨a, _ | ⟨b, x⟩⟩ <;> intro t same
      · exact absurd (List.cons.inj same).1 (by decide)
      · exact absurd (List.cons.inj (List.cons.inj same).2).1 (by decide)
      · exact (text b (by simp)).2.1 (List.cons.inj (List.cons.inj same).2).1
    · rcases x with _ | ⟨a, _ | ⟨b, _ | ⟨d, x⟩⟩⟩ <;> intro c t same
      · exact absurd (List.cons.inj same).1 (by decide)
      · exact absurd (List.cons.inj (List.cons.inj same).2).1 (by decide)
      · obtain ⟨rfl, later⟩ := List.cons.inj same
        obtain ⟨rfl, _⟩ := List.cons.inj later
        exact absurd rfl (noSeam rfl)
      · obtain ⟨rfl, _⟩ := List.cons.inj (List.cons.inj (List.cons.inj same).2).2
        exact (text d (by simp)).2.2.2

/-- The constructs from an offset on that have been refused, one in the branch of the other. -/
def Notes.Refused (offset count : Nat) (notes : Notes) : Prop :=
  ∀ i < count, notes.known.lookup (offset + i * opener.length) = some none

theorem refused_learn {count : Nat} (later : notes.Refused (contents offset) count) :
    (notes.learn offset none).Refused offset (count + 1) := by
  intro i less
  rw [Notes.learn, List.lookup_cons]
  cases i with
  | zero => simp
  | succ i =>
    have place : offset + (i + 1) * opener.length = contents offset + i * opener.length := by
      rw [contents, Nat.succ_mul]
      omega
    have other : contents offset + i * opener.length ≠ offset := by
      have some : 0 < opener.length := by decide
      rw [contents]
      omega
    rw [place, beq_eq_false_iff_ne.2 other]
    exact later i (Nat.lt_of_succ_lt_succ less)

/-- The quote that a refused construct begins its branch with ends the branch around it. -/
theorem branchFrom_refused {rest : List Char}
    (refused : construct depth offset (asked ++ '"' :: rest) notes = (none, after)) :
    branchFrom (construct depth) '"' offset ('\x7b' :: (asked ++ '"' :: rest)) notes =
      (some ⟨opener.length, '\x7b' :: '\x7b' :: asked⟩, after) := by
  have quote : isQuote '"' = true := by decide
  rw [branchFrom_brace, refused]
  dsimp only
  rw [branchFrom_plain quote (by decide), branchFrom_end quote]
  rfl

/-- A construct around a refused one is refused too, when nothing after the quote helps it. -/
theorem construct_around {rest : List Char} (shallow : ¬ maxDepth < depth)
    (unknown : notes.known.lookup offset = none)
    (refused : construct (depth + 1) (contents offset) (asked ++ '"' :: rest) notes = (none, after))
    (noEnd : ∀ t, rest ≠ ']' :: '\x7d' :: t)
    (noSecond : ∀ c t, rest = '|' :: '|' :: c :: t → isQuote c = false) :
    construct depth offset (asked ++ '"' :: (opener ++ rest)) notes =
      (none, after.learn offset none) := by
  have failed : readConstruct (construct (depth + 1)) offset
      (asked ++ '"' :: ('\x7b' :: (asked ++ '"' :: rest))) notes = (none, after) :=
    readConstruct_unended (by decide) (read_asked _) (branchFrom_refused refused) noEnd noSecond
  rw [construct_read _ unknown shallow, opener_append, failed]
  rfl

theorem construct_refused (text : IsText x) {c k : Nat} (noSeam : k = c → x ≠ bars)
    (tail : List Char) (fresh : notes.Fresh offset) (deep : depth + c = maxDepth + 1)
    (levels : c ≤ k) :
    ∃ later, construct depth offset
        (asked ++ '"' :: (wrapped opener branchEnd k x ++ (branchEnd ++ tail))) notes =
      (none, later) ∧ later.Refused offset (c + 1) ∧
        later.Fresh (offset + (c + 1) * opener.length) := by
  have positive : 0 < opener.length := by decide
  have here := fresh offset (Nat.le_refl offset)
  induction c generalizing depth offset notes k tail with
  | zero =>
    rw [construct_deep _ here (by omega)]
    refine ⟨_, rfl, refused_learn fun i less => absurd less (Nat.not_lt_zero i), ?_⟩
    refine fresh_learn ?_ (by omega) none
    exact fresh_later fresh (Nat.le_add_right _ _)
  | succ c ih =>
    cases k with
    | zero => cases levels
    | succ k =>
      have next : notes.Fresh (contents offset) := fresh_later fresh (Nat.le_add_right _ _)
      have deeper : depth + 1 + c = maxDepth + 1 := by omega
      obtain ⟨after, refused, known, freshAfter⟩ := ih (k := k)
        (fun same => noSeam (congrArg (· + 1) same)) (branchEnd ++ tail) next deeper
        (Nat.le_of_succ_le_succ levels) (next _ (Nat.le_refl _))
      obtain ⟨noEnd, noSecond⟩ := wrapped_unended (k := k) text
        (fun none => noSeam (by omega)) (branchEnd ++ tail)
      have around := construct_around (by omega) here refused noEnd noSecond
      have place : offset + (c + 1 + 1) * opener.length =
          contents offset + (c + 1) * opener.length := by
        rw [contents, Nat.succ_mul]
        omega
      rw [wrapped, List.append_assoc, List.append_assoc, around]
      refine ⟨_, rfl, refused_learn known, fresh_learn (place ▸ freshAfter) ?_ none⟩
      rw [place, contents]
      omega

/-! Whole templates. -/

def literal : List Char := '\x7b' :: opener

theorem closed_of_all {w : List Char} (all : w.all (· != '\x7b') = true) :
    ∀ c ∈ w, c ≠ '\x7b' := fun c member => bne_iff_ne.1 (List.all_eq_true.1 all c member)

theorem writtenFrom_plain (inside : Reader) (offset : Nat) {w : List Char}
    (closed : ∀ c ∈ w, c ≠ '\x7b') (rest : List Char) (notes : Notes) :
    writtenFrom inside offset (w ++ rest) notes =
      w ++ writtenFrom inside (offset + byteSize w) rest notes := by
  induction w generalizing offset with
  | nil => rfl
  | cons c w ih =>
    rw [List.cons_append, writtenFrom_char inside offset (closed c List.mem_cons_self),
      ih _ fun d member => closed d (List.mem_cons_of_mem c member), byteSize_cons, Nat.add_assoc]
    rfl

theorem writtenFrom_all (inside : Reader) (offset : Nat) {w : List Char}
    (closed : ∀ c ∈ w, c ≠ '\x7b') (notes : Notes) : writtenFrom inside offset w notes = w := by
  have nothing : writtenFrom inside (offset + byteSize w) [] notes = [] := by
    rw [writtenFrom, segmentsFrom]
    rfl
  have read := writtenFrom_plain inside offset closed [] notes
  rwa [nothing, List.append_nil] at read

theorem writtenFrom_refused {rest : List Char}
    (refused : construct 0 offset (asked ++ '"' :: rest) notes = (none, after)) :
    writtenFrom (construct 0) offset (opener ++ rest) notes =
      literal ++ writtenFrom (construct 0) (contents offset) rest after := by
  have passed : pass (construct 0) offset (asked ++ '"' :: rest) notes =
      (⟨0, ['\x7b', '\x7b']⟩, after) := by
    rw [pass, refused]
    simp only [leftover, keptSpan_asked]
    rfl
  have parts : asked ++ '"' :: rest = (asked ++ ['"']) ++ rest := by simp
  rw [opener_append, writtenFrom_brace, passed]
  dsimp only
  rw [List.take_zero, List.drop_zero, parts, writtenFrom_plain]
  · rfl
  · exact closed_of_all (by decide)

theorem writtenFrom_known {count : Nat} (known : notes.Refused offset count) (rest : List Char) :
    writtenFrom (construct 0) offset ((List.replicate count opener).flatten ++ rest) notes =
      (List.replicate count literal).flatten ++
        writtenFrom (construct 0) (offset + count * opener.length) rest notes := by
  induction count generalizing offset with
  | zero => simp
  | succ count ih =>
    have here : notes.known.lookup offset = some none := by
      have first := known 0 (Nat.succ_pos count)
      rwa [Nat.zero_mul, Nat.add_zero] at first
    have later : notes.Refused (contents offset) count := by
      intro i less
      have next := known (i + 1) (Nat.succ_lt_succ less)
      rwa [Nat.succ_mul, Nat.add_comm (i * _), ← Nat.add_assoc] at next
    have place : offset + (count + 1) * opener.length =
        contents offset + count * opener.length := by
      rw [contents, Nat.succ_mul]
      omega
    rw [List.replicate_succ, List.replicate_succ, List.flatten_cons, List.flatten_cons,
      List.append_assoc, writtenFrom_refused (construct_known 0 _ here), ih later, place,
      List.append_assoc]

/-- What a text is written as outside of all constructs, when nothing in it has been read before
and no brace comes after it. -/
def WrittenAs (source text : List Char) : Prop :=
  ∀ offset notes tail, Notes.Fresh offset notes → (∀ c ∈ tail, c ≠ '\x7b') →
    writtenFrom (construct 0) offset (source ++ tail) notes = text ++ tail

theorem written_of_finds {front text : List Char} (finds : Finds 0 front text) :
    WrittenAs ('\x7b' :: front) text := by
  intro offset notes tail fresh closed
  obtain ⟨later, found⟩ := finds offset notes tail fresh
  rw [List.cons_append, writtenFrom_brace, pass, found]
  dsimp only
  rw [List.drop_left, writtenFrom_all _ _ closed]

theorem written_converted {h n : Nat} {body text : List Char} {nodes : List Node}
    (becomes : Becomes (n + 1) body text) (fits : n ≤ maxDepth)
    (spells : Spells Limits.default.depth h text nodes)
    (room : h + (n + 1) ≤ Limits.default.depth) :
    WrittenAs (wrapped opener branchEnd (n + 1) body) (wrapped ifFlag endIf (n + 1) text) := by
  rw [Nat.add_comm] at becomes
  have branch := becomes_nested becomes (by omega) spells (Nat.le_of_succ_le room)
  rw [wrapped, opener_append]
  exact written_of_finds (finds_asked branch (Nat.zero_le _)
    (readable_nested (n := n + 1) spells room))

theorem written_shallow (text : IsText x) {n : Nat} (fits : n ≤ maxDepth + 1) :
    WrittenAs (wrapped opener branchEnd n x) (wrapped ifFlag endIf n x) := by
  cases n with
  | zero =>
    intro offset notes tail _ closed
    refine writtenFrom_all (construct 0) offset (fun c member => ?_) notes
    rcases List.mem_append.1 member with inside | behind
    · exact (text c inside).1
    · exact closed c behind
  | succ n =>
    have room : maxDepth + 1 ≤ Limits.default.depth := by decide
    obtain ⟨_, spells⟩ := spells_text text
    exact written_converted (becomes_text text _) (Nat.le_of_succ_le_succ fits) spells (by omega)

/-- The construct around a refused one with two bars has a second branch. -/
def twoBranches : List Char :=
  conditional flagHead ('\x7b' :: '\x7b' :: asked) [']', '\x7d']

theorem spells_twoBranches :
    ∃ nodes, Spells Limits.default.depth 1 twoBranches nodes := by
  obtain ⟨_, word⟩ : ∃ nodes, Spells Limits.default.depth 0 asked nodes :=
    spells_closed_text (closed_of_all (by decide))
  obtain ⟨_, second⟩ : ∃ nodes, Spells Limits.default.depth 0 [']', '\x7d'] nodes :=
    spells_closed_text (closed_of_all (by decide))
  have first := spells_append spells_brace word
  rw [twoBranches, conditional_eq, if_neg (by decide), List.append_assoc]
  exact ⟨_, spells_alternative (enclosed_opening written_flag) (opening_single _) itemOf_flag first
    second⟩

theorem finds_twoBranches : Finds maxDepth
    (asked ++ '"' :: (wrapped opener branchEnd 1 bars ++ branchEnd)) twoBranches := by
  intro offset notes tail fresh
  have next : notes.Fresh (contents offset) := fresh_later fresh (Nat.le_add_right _ _)
  obtain ⟨_, spells⟩ := spells_twoBranches
  have readable : isReadable twoBranches = true := readable_of_spells spells (by decide)
  let inner := asked ++ '"' :: ('|' :: '|' :: '"' :: ([']', '\x7d'] ++ (branchEnd ++ tail)))
  have source : asked ++ '"' :: (wrapped opener branchEnd 1 bars ++ branchEnd) ++ tail =
      asked ++ '"' :: ('\x7b' :: inner) := by
    simp [inner, wrapped, opener, bars, branchEnd]
  have refused := construct_deep inner (next _ (Nat.le_refl _)) (Nat.lt_succ_self maxDepth)
  have second (start : Nat) (notes : Notes) : branchFrom (construct (maxDepth + 1)) '"' start
      ([']', '\x7d'] ++ (branchEnd ++ tail)) notes = (some ⟨3, [']', '\x7d']⟩, notes) := by
    rw [branchFrom_plain (by decide) (by decide), branchFrom_branchEnd]
    rfl
  have ends : ([']', '\x7d'] ++ (branchEnd ++ tail)).drop 3 = ']' :: '\x7d' :: tail := rfl
  have found := readConstruct_double (by decide) (by decide) (read_asked _)
    (branchFrom_refused refused) rfl (fun start => second start _) ends
  rw [construct_read _ (fresh offset (Nat.le_refl offset)) (Nat.lt_irrefl _), source]
  dsimp only
  rw [found, ← source, List.length_append, Nat.add_sub_cancel, ← twoBranches]
  simp only [Option.filter_some, readable, ↓reduceIte]
  exact ⟨_, rfl⟩

def refusedTogether : Nat := maxDepth + 2

theorem written_twoBranches : WrittenAs (wrapped opener branchEnd refusedTogether bars)
    (wrapped ifFlag endIf maxDepth twoBranches) := by
  obtain ⟨_, spells⟩ := spells_twoBranches
  have inner : Becomes maxDepth (wrapped opener branchEnd 2 bars) twoBranches :=
    becomes_of_finds finds_twoBranches
  have written := written_converted (n := maxDepth - 1) inner (by decide) spells (by decide)
  rw [← wrapped_add] at written
  exact written

theorem outermost_refused (text : IsText x) {m : Nat} (noSeam : m = 0 → x ≠ bars)
    (tail : List Char) (fresh : notes.Fresh offset) :
    ∃ later rest, wrapped opener branchEnd (refusedTogether + m) x ++ tail = opener ++ rest ∧
      construct 0 offset (asked ++ '"' :: rest) notes = (none, later) ∧
      later.Refused offset refusedTogether ∧
      later.Fresh (offset + refusedTogether * opener.length) := by
  have levels : refusedTogether + m = maxDepth + 1 + m + 1 := by
    rw [refusedTogether]
    omega
  obtain ⟨later, refused, known, freshLater⟩ := construct_refused text (k := maxDepth + 1 + m)
    (fun same => noSeam (by omega)) tail fresh (Nat.zero_add (maxDepth + 1)) (by omega)
  refine ⟨later, _, ?_, refused, known, freshLater⟩
  rw [levels, wrapped, List.append_assoc, List.append_assoc]

/-- Those that fail together are passed, and reading goes on inside of them. -/
theorem written_refused (text : IsText x) {m : Nat} (noSeam : m = 0 → x ≠ bars) {y : List Char}
    (inner : WrittenAs (wrapped opener branchEnd m x) y) :
    WrittenAs (wrapped opener branchEnd (refusedTogether + m) x)
      (wrapped literal branchEnd refusedTogether y) := by
  intro offset notes tail fresh closed
  obtain ⟨later, rest, shape, refused, known, freshLater⟩ :=
    outermost_refused text noSeam tail fresh
  -- The first of them is refused again when it is known, so it may be known already.
  have same : writtenFrom (construct 0) offset (opener ++ rest) notes =
      writtenFrom (construct 0) offset (opener ++ rest) later := by
    have here := known 0 (Nat.succ_pos _)
    rw [Nat.zero_mul, Nat.add_zero] at here
    rw [writtenFrom_refused refused, writtenFrom_refused (construct_known 0 _ here)]
  have ends : ∀ c ∈ branchEnd, c ≠ '\x7b' := closed_of_all (by decide)
  have behind : ∀ c ∈ (List.replicate refusedTogether branchEnd).flatten ++ tail,
      c ≠ '\x7b' := by
    intro c member
    rcases List.mem_append.1 member with inside | outside
    · obtain ⟨part, listed, inside⟩ := List.mem_flatten.1 inside
      exact ends c (List.eq_of_mem_replicate listed ▸ inside)
    · exact closed c outside
  rw [shape, same, ← shape, wrapped_add, wrapped_eq opener, List.append_assoc, List.append_assoc,
    writtenFrom_known known, inner _ _ _ freshLater behind, wrapped_eq, List.append_assoc,
    List.append_assoc]

/-- Constructs fail together so many times before those that are left are converted. -/
theorem written_nested (text : IsText x) {m : Nat} (noSeam : m = 0 → x ≠ bars) {y : List Char}
    (inner : WrittenAs (wrapped opener branchEnd m x) y) (times : Nat) :
    WrittenAs (wrapped opener branchEnd (refusedTogether * times + m) x)
      (wrapped literal branchEnd (refusedTogether * times) y) := by
  induction times with
  | zero =>
    rw [Nat.mul_zero, Nat.zero_add]
    exact inner
  | succ times ih =>
    have levels : refusedTogether * (times + 1) + m =
        refusedTogether + (refusedTogether * times + m) := by
      rw [Nat.mul_succ]
      omega
    have noSeamLeft : refusedTogether * times + m = 0 → x ≠ bars := fun none =>
      noSeam (Nat.eq_zero_of_add_eq_zero none).2
    rw [levels, Nat.mul_succ, Nat.add_comm _ refusedTogether, wrapped_add literal]
    exact written_refused text noSeamLeft ih

def nested (n : Nat) (x : String) : String := String.ofList (wrapped opener branchEnd n x.toList)

/-- As many constructs as may be in each other, with the rest of them written as they are. -/
def deepestLiteral (n : Nat) (x : String) : String :=
  String.ofList (wrapped ifFlag endIf (min n (maxDepth + 1))
    (wrapped literal branchEnd (n - (maxDepth + 1)) x.toList))

theorem convert_nested {n : Nat} {s : String} {y : List Char}
    (written : WrittenAs (wrapped opener branchEnd n s.toList) y) :
    (convert (nested n s)).value = String.ofList y := by
  have all := written 0 ⟨[], []⟩ [] (fresh_start 0) (by simp)
  rw [List.append_nil, List.append_nil] at all
  rw [convert, convertWith, nested, String.toList_ofList, ← all]
  rfl

/-- The construct around a refused one with two bars does not end as one with a single branch. -/
theorem seam_not_literal :
    (convert (nested refusedTogether "||")).value ≠ deepestLiteral refusedTogether "||" := by
  intro same
  rw [convert_nested (s := "||") written_twoBranches, deepestLiteral] at same
  have lists : wrapped ifFlag endIf maxDepth twoBranches =
      wrapped ifFlag endIf (maxDepth + 1) (wrapped literal branchEnd 1 bars) :=
    String.ofList_inj.1 same
  rw [wrapped_add] at lists
  exact absurd (wrapped_inj lists) (by decide +kernel)

theorem outermost_literal {s : String} (text : IsText s.toList) {m : Nat}
    (noSeam : m = 0 → s.toList ≠ bars) :
    (convert (nested (refusedTogether + m) s)).value ≠ deepestLiteral (refusedTogether + m) s := by
  intro same
  obtain ⟨later, rest, shape, refused, _, _⟩ := outermost_refused text noSeam [] (fresh_start 0)
  have written : (convert (nested (refusedTogether + m) s)).value =
      String.ofList (literal ++ writtenFrom (construct 0) (contents 0) rest later) := by
    rw [List.append_nil] at shape
    rw [convert, convertWith, nested, String.toList_ofList, shape, ← writtenFrom_refused refused]
    rfl
  have deep : min (refusedTogether + m) (maxDepth + 1) = maxDepth + 1 := by
    rw [refusedTogether]
    omega
  rw [written, deepestLiteral, deep, wrapped] at same
  have second := (List.cons.inj (List.cons.inj (String.ofList_inj.1 same)).2).1
  exact absurd second (by decide)

/-- Constructs in each other are converted down to the deepest that may be, with those beyond it
written as they are, only when there are none beyond it. Otherwise it is the outermost that are
written as they are, as many at a time as fail together, and those left inside of them that are
converted. Around two bars the last of them do not fail when none would be left: only the innermost
is written as it is, and the one around it gets a second branch. -/
theorem nested_deepest_literal_iff {s : String} (text : IsText s.toList) (n : Nat) :
    ((convert (nested n s)).value = deepestLiteral n s ↔ n ≤ maxDepth + 1) ∧
    ((n % refusedTogether = 0 → s ≠ "||") →
      (convert (nested n s)).value =
        String.ofList (wrapped literal branchEnd (refusedTogether * (n / refusedTogether))
          (wrapped ifFlag endIf (n % refusedTogether) s.toList))) ∧
    (s = "||" → ∀ times, n = refusedTogether * times + refusedTogether →
      (convert (nested n s)).value =
        String.ofList (wrapped literal branchEnd (refusedTogether * times)
          (wrapped ifFlag endIf maxDepth twoBranches))) := by
  refine ⟨⟨fun same => ?_, fun fits => ?_⟩, fun noSeam => ?_, ?_⟩
  · by_contra deep
    obtain ⟨m, rfl⟩ : ∃ m, n = refusedTogether + m :=
      Nat.exists_eq_add_of_le (Nat.not_le.1 deep)
    by_cases seam : m = 0 ∧ s = "||"
    · obtain ⟨rfl, rfl⟩ := seam
      exact seam_not_literal same
    · exact outermost_literal text
        (fun none two => seam ⟨none, String.toList_inj.1 two⟩) same
  · rw [convert_nested (written_shallow text fits), deepestLiteral, Nat.min_eq_left fits,
      Nat.sub_eq_zero_of_le fits]
    rfl
  · have fits : n % refusedTogether ≤ maxDepth + 1 :=
      Nat.le_of_lt_succ (Nat.mod_lt n (by decide))
    have written := written_nested text (fun none two => noSeam none (String.toList_inj.1 two))
      (written_shallow text fits) (n / refusedTogether)
    rw [Nat.div_add_mod] at written
    exact convert_nested written
  · rintro rfl times rfl
    exact convert_nested (written_nested text (by decide) written_twoBranches times)

/-- One construct more than may be in each other. -/
theorem nested_too_deep_all_literal :
    (convert (nested (maxDepth + 2) "x")).value ≠ deepestLiteral (maxDepth + 2) "x" :=
  outermost_literal (by decide) (m := 0) fun _ => by decide

theorem nested_deepest_literal_fortieth :
    (convert (nested 40 "x")).value = String.ofList (wrapped literal branchEnd refusedTogether
        (wrapped ifFlag endIf 6 ['x'])) ∧
      (convert (nested 40 "x")).value ≠ deepestLiteral 40 "x" := by
  obtain ⟨agrees, written, _⟩ := nested_deepest_literal_iff (s := "x") (by decide) 40
  exact ⟨written fun _ => by decide, fun same => absurd (agrees.1 same) (by decide)⟩

end TitleTemplate.Legacy
