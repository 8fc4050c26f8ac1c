import TitleTemplate.Proofs.Legacy.Delimited

/-!
A branch without quotes and backslashes. No construct in it can have a branch of its own, so what a
brace begins there is what it begins in the same text outside of all constructs, with one exception:
an output that is kept outside is not kept in a branch. Its brace is doubled like one that begins
nothing.
-/
namespace TitleTemplate.Legacy

/-- What a brace begins when no branch can follow: an output. -/
def outputAt (cs : List Char) : Option Converted :=
  (uncheckedHead cs).bind fun r =>
    match r.2 with
    | '\x7d' :: rest => some ⟨cs.length - rest.length, braced r.1.operand⟩
    | _ => none

def Ends (tail : List Char) : Prop := tail = [] ∨ tail = branchEnd

theorem outputAt_ends {cs tail : List Char} (unquoted : Unquoted cs) (ends : Ends tail) :
    outputAt (cs ++ tail) = outputAt cs := by
  rcases ends with rfl | rfl
  · rw [List.append_nil]
  · rw [outputAt, outputAt, uncheckedHead_ended unquoted]
    cases uncheckedHead cs with
    | none => rfl
    | some r =>
      obtain ⟨head, rest⟩ := r
      cases rest with
      | nil => rfl
      | cons c rest =>
        by_cases close : c = '\x7d'
        · subst close
          simp [Nat.add_sub_add_right]
        · simp [close]

theorem quote_of_suffix {cs tail rest : List Char} {quote : Char} (unquoted : Unquoted cs)
    (ends : Ends tail) (opens : isQuote quote = true) (suffix : quote :: rest <:+ cs ++ tail) :
    quote :: rest = branchEnd := by
  have last (before : List Char) (shape : tail = before ++ quote :: rest) :
      quote :: rest = branchEnd := by
    rcases ends with rfl | rfl
    · simp at shape
    · cases before with
      | nil => exact shape.symm
      | cons c before =>
        have member : quote ∈ [']', '\x7d'] := by
          rw [(List.cons.inj shape).2]
          simp
        have none : [']', '\x7d'].all (!isQuote ·) = true := by decide
        have closed := List.all_eq_true.1 none quote member
        rw [opens] at closed
        cases closed
  obtain ⟨before, shape⟩ := suffix
  rcases List.append_eq_append_iff.1 shape with ⟨inner, rfl, same⟩ | ⟨inner, rfl, same⟩
  · cases inner with
    | nil => exact last [] same.symm
    | cons c inner =>
      obtain ⟨rfl, _⟩ := List.cons.inj same
      have closed := unquoted quote (by simp)
      rw [opens] at closed
      cases closed
  · exact last _ same

/-- A brace before which no quote stands begins an output or nothing, and nothing is noted. -/
theorem readConstruct_flat (inside : Reader) (offset : Nat) {cs tail : List Char} (notes : Notes)
    (unquoted : Unquoted cs) (ends : Ends tail) :
    readConstruct inside offset (cs ++ tail) notes = (outputAt cs, notes) := by
  rw [← outputAt_ends unquoted ends, readConstruct, outputAt, uncheckedHead]
  cases read : Head.read (cs ++ tail) with
  | none => rfl
  | some r =>
    obtain ⟨head, rest⟩ := r
    by_cases bracket : ∃ more, rest = '[' :: more
    · obtain ⟨more, rfl⟩ := bracket
      have unread : ∀ start, branch inside start more notes = (none, notes) := by
        intro start
        cases more with
        | nil => rfl
        | cons quote more =>
          rw [branch]
          split
          · rename_i opens
            have within := (List.suffix_cons '[' (quote :: more)).trans (head_suffix read)
            obtain ⟨rfl, rfl⟩ := List.cons.inj (quote_of_suffix unquoted ends opens within)
            have plain : [']', '\x7d'].all isPlain = true := by decide
            rw [← List.append_nil [']', '\x7d'], branchFrom_plain opens plain, branchFrom]
            rfl
          · rfl
      cases check : head.check <;> simp [unread, Option.filter_some, check]
    · rcases rest with _ | ⟨c, rest⟩
      · cases check : head.check <;> simp [Option.filter_some, check]
      · by_cases close : c = '\x7d'
        · subst close
          cases check : head.check <;> simp [Option.filter_some, check, braced]
        · have other : c ≠ '[' := fun same => bracket ⟨rest, same ▸ rfl⟩
          cases check : head.check <;> simp [Option.filter_some, check, close, other]

/-- What a brace is converted to when no branch can follow. -/
def flat (cs : List Char) : Option Converted := (outputAt cs).filter (isReadable ·.text)

theorem construct_flat {depth offset : Nat} {cs tail : List Char} {notes : Notes}
    (fresh : notes.Fresh offset) (shallow : ¬ maxDepth < depth) (unquoted : Unquoted cs)
    (ends : Ends tail) :
    construct depth offset (cs ++ tail) notes = (flat cs, notes.learn offset (flat cs)) := by
  rw [construct_read _ (fresh offset (Nat.le_refl offset)) shallow,
    readConstruct_flat _ _ _ unquoted ends]
  rfl

theorem flat_found {cs : List Char} {found : Converted} (result : flat cs = some found) :
    found.length ≤ cs.length ∧ ∃ nodes, Spells Limits.default.depth 0 found.text nodes := by
  obtain ⟨output, readable⟩ := Option.filter_eq_some_iff.1 result
  obtain ⟨⟨head, rest⟩, read, closed⟩ := Option.bind_eq_some_iff.1 output
  obtain ⟨read, -⟩ := Option.filter_eq_some_iff.1 read
  dsimp only at closed
  split at closed
  · obtain rfl := Option.some.inj closed
    exact ⟨Nat.sub_le _ _, _, operand_spells (written_of_read read) readable⟩
  · cases closed

theorem spanLength_closed {cs : List Char} (plain : ∀ c ∈ cs, c ≠ '\\' ∧ isQuote c = false)
    {n : Nat} (found : spanLength none cs = some n) :
    n ≤ cs.length ∧ ∀ c ∈ cs.take n, c ≠ '\x7b' := by
  induction cs generalizing n with
  | nil => cases found
  | cons c cs ih =>
    obtain ⟨noEscape, noQuote⟩ := plain c List.mem_cons_self
    rw [spanLength] at found
    · split at found
      · rename_i close
        obtain rfl := Option.some.inj found
        subst close
        simp
      · split at found
        · cases found
        · rename_i notOpen
          rw [noQuote, if_neg Bool.false_ne_true] at found
          obtain ⟨m, later, rfl⟩ := Option.map_eq_some_iff.1 found
          have rest := fun d member => plain d (List.mem_cons_of_mem c member)
          obtain ⟨fits, closed⟩ := ih rest later
          refine ⟨Nat.succ_le_succ fits, fun d member => ?_⟩
          rw [List.take_succ_cons] at member
          rcases List.mem_cons.1 member with rfl | inside
          · exact notOpen
          · exact closed d inside
    · exact fun same => absurd same noEscape
    · exact fun _ _ same => absurd same noEscape

/-- What is written for a segment in a branch. -/
def Segment.inBranch : Segment → List Char
  | .verbatim c => [c]
  | .rewritten text => text
  | .kept text => '\x7b' :: text
  | .brace => ['\x7b', '\x7b']

/-- What has been read of a branch is what is written there for segments. -/
def Matches (segments : List Segment) (length : Nat) (result : Option Converted × Notes) : Prop :=
  result.1 = some ⟨length, segments.flatMap Segment.inBranch⟩ ∧
    ∃ nodes, Spells Limits.default.depth 0 (segments.flatMap Segment.inBranch) nodes

theorem matches_cons (segment : Segment) {segments : List Segment} {length : Nat}
    {result : Option Converted × Notes} (taken : Nat) {ns : List Node}
    (spells : Spells Limits.default.depth 0 segment.inBranch ns)
    (later : Matches segments length result) :
    Matches (segment :: segments) (taken + length)
      (Converted.prepend taken segment.inBranch result) := by
  obtain ⟨read, nodes, rest⟩ := later
  refine ⟨?_, ns ++ nodes, ?_⟩
  · rw [Converted.prepend, read]
    rfl
  · rw [List.flatMap_cons]
    exact spells_append spells rest

theorem kept_plain {rest : List Char} (plain : ∀ c ∈ rest, c ≠ '\\' ∧ isQuote c = false) {n : Nat}
    (kept : keptSpan rest = some n) :
    n ≤ rest.length ∧ (rest.take n).all isPlain = true ∧
      ∃ nodes, Spells Limits.default.depth 0 (Segment.kept ('\x7b' :: rest.take n)).inBranch
        nodes := by
  obtain ⟨span, -⟩ := Option.filter_eq_some_iff.1 kept
  obtain ⟨fits, closed⟩ := spanLength_closed plain span
  refine ⟨fits, List.all_eq_true.2 fun d member => isPlain_iff.2 ?_, ?_⟩
  · obtain ⟨noEscape, noQuote⟩ := plain d (List.mem_of_mem_take member)
    exact ⟨noEscape, closed d member, noQuote⟩
  · obtain ⟨nodes, spells⟩ := spells_closed_text closed
    exact ⟨_, spells_append spells_brace spells⟩

/-- After any of its characters a text is read in a branch as it is read outside. -/
def GoesOn (rest : List Char) : Prop :=
  ∀ taken x y u v, Notes.Fresh x u → Notes.Fresh y v → taken ≤ rest.length →
    Matches (segmentsFrom (construct 0) x (rest.drop taken) u).1 (rest.length + 1 - taken)
      (branchFrom (construct 1) '"' y ((rest ++ branchEnd).drop taken) v)

variable {a b : Nat} {m n : Notes}

theorem matches_brace {rest : List Char} (plain : ∀ c ∈ rest, c ≠ '\\' ∧ isQuote c = false)
    (goesOn : GoesOn rest) (freshA : m.Fresh a) (freshB : n.Fresh b) :
    Matches (segmentsFrom (construct 0) a ('\x7b' :: rest) m).1 (rest.length + 1 + 1)
      (branchFrom (construct 1) '"' b ('\x7b' :: rest ++ branchEnd) n) := by
  have unquoted : Unquoted rest := fun d member => (plain d member).2
  have here := construct_flat freshA (by decide : ¬ maxDepth < 0) unquoted (.inl rfl : Ends [])
  have there := construct_flat freshB (by decide : ¬ maxDepth < 1) unquoted (.inr rfl)
  have nextA := fresh_learn (fresh_later freshA (Nat.le_succ a)) a.lt_succ_self (flat rest)
  have nextB := fresh_learn (fresh_later freshB (Nat.le_succ b)) b.lt_succ_self (flat rest)
  rw [List.append_nil] at here
  rw [segmentsFrom_brace, List.cons_append, branchFrom_brace, here, there]
  cases result : flat rest with
  | some found =>
    rw [result] at nextA nextB
    obtain ⟨fits, _, spells⟩ := flat_found result
    have total : 1 + found.length + (rest.length + 1 - found.length) = rest.length + 1 + 1 := by
      omega
    rw [← total]
    exact matches_cons (.rewritten found.text) _ spells (goesOn _ _ _ _ _
      (fresh_later nextA (Nat.le_add_right _ _)) (fresh_later nextB (Nat.le_add_right _ _)) fits)
  | none =>
    rw [result] at nextA nextB
    cases kept : keptSpan rest with
    | some k =>
      obtain ⟨fits, inner, _, spells⟩ := kept_plain plain kept
      have total : 1 + (rest.take k).length + (rest.length + 1 - k) = rest.length + 1 + 1 := by
        rw [List.length_take]
        omega
      have split : rest ++ branchEnd = rest.take k ++ (rest ++ branchEnd).drop k := by
        rw [List.drop_append_of_le_length fits, ← List.append_assoc, List.take_append_drop]
      dsimp only
      rw [split, branchFrom_plain (by decide) inner, prepend_prepend, ← total]
      exact matches_cons (.kept ('\x7b' :: rest.take k)) _ spells (goesOn k _ _ _ _
        (fresh_later nextA (Nat.le_add_right _ _)) (fresh_later nextB (Nat.le_add_right _ _)) fits)
    | none =>
      have total : 1 + (rest.length + 1 - 0) = rest.length + 1 + 1 := by omega
      rw [← total]
      exact matches_cons .brace 1 spells_brace (goesOn 0 _ _ _ _ nextA nextB (Nat.zero_le _))

theorem matches_char {c : Char} {rest : List Char} (plain : isPlain c = true)
    (goesOn : GoesOn rest) (freshA : m.Fresh a) (freshB : n.Fresh b) :
    Matches (segmentsFrom (construct 0) a (c :: rest) m).1 (rest.length + 1 + 1)
      (branchFrom (construct 1) '"' b (c :: rest ++ branchEnd) n) := by
  obtain ⟨_, opens, _⟩ := isPlain_iff.1 plain
  have notOpen : isOpen c = false := by simpa [isOpen] using opens
  have total : 1 + (rest.length + 1 - 0) = rest.length + 1 + 1 := by omega
  rw [segmentsFrom_char _ _ opens, List.cons_append, branchFrom_char (by decide) plain, ← total]
  exact matches_cons (.verbatim c) 1 (spells_char notOpen)
    (goesOn 0 _ _ _ _ (fresh_later freshA (Nat.le_add_right _ _))
      (fresh_later freshB (Nat.le_add_right _ _)) (Nat.zero_le _))

theorem branchFrom_matches {cs : List Char} (plain : ∀ c ∈ cs, c ≠ '\\' ∧ isQuote c = false)
    (freshA : m.Fresh a) (freshB : n.Fresh b) :
    Matches (segmentsFrom (construct 0) a cs m).1 (cs.length + 1)
      (branchFrom (construct 1) '"' b (cs ++ branchEnd) n) := by
  induction size : cs.length using Nat.strongRecOn generalizing cs a b m n with
  | ind k ih =>
    subst size
    cases cs with
    | nil =>
      rw [segmentsFrom]
      refine ⟨?_, [], spells_nil⟩
      exact congrArg Prod.fst (branchFrom_end (by decide) b _ n)
    | cons c rest =>
      have later : ∀ d ∈ rest, d ≠ '\\' ∧ isQuote d = false :=
        fun d member => plain d (List.mem_cons_of_mem c member)
      have goesOn : GoesOn rest := by
        intro taken x y u v freshX freshY fits
        have shorter : (rest.drop taken).length < (c :: rest).length := by
          rw [List.length_drop, List.length_cons]
          omega
        have left : (rest.drop taken).length + 1 = rest.length + 1 - taken := by
          rw [List.length_drop]
          omega
        rw [List.drop_append_of_le_length fits, ← left]
        exact ih _ shorter (fun d member => later d (List.mem_of_mem_drop member)) freshX freshY rfl
      by_cases opens : c = '\x7b'
      · subst opens
        exact matches_brace later goesOn freshA freshB
      · obtain ⟨noEscape, noQuote⟩ := plain c List.mem_cons_self
        exact matches_char (isPlain_iff.2 ⟨noEscape, opens, noQuote⟩) goesOn freshA freshB

def flagged (p t : List Char) : List Char := '\x7b' :: (p ++ '[' :: '"' :: (t ++ branchEnd))

theorem readable_flag {p text : List Char} (path : (splitAtChar '.' p).all isSegment = true)
    (other : p ≠ "not".toList) {nodes : List Node}
    (spells : Spells Limits.default.depth 0 text nodes) :
    isReadable (conditional ⟨p, [], none⟩ text []) = true := by
  have written : Head.Written ⟨p, [], none⟩ := ⟨path, by simp⟩
  have read : itemOf Limits.default.depth (Head.opening ⟨p, [], none⟩) = some (.openIf _) :=
    itemOf_opening written other (by decide)
  have whole := spells_conditional (enclosed_opening written) (opening_single _) read spells
  obtain ⟨nodes, parsed, _⟩ := parse_of_spells whole (by decide)
  rw [conditional_eq, if_pos rfl]
  exact isReadable_iff.2 ⟨nodes, parsed⟩

theorem convert_flagged {p t : List Char} (path : (splitAtChar '.' p).all isSegment = true)
    (other : p ≠ "not".toList) (plain : ∀ c ∈ t, c ≠ '\\' ∧ isQuote c = false) :
    (convert (String.ofList (flagged p t))).value = String.ofList (conditional ⟨p, [], none⟩
      ((segmentsFrom (construct 0) 0 t ⟨[], []⟩).1.flatMap Segment.inBranch) []) := by
  have inner (start : Nat) := branchFrom_matches plain (fresh_start 0) (fresh_start start)
  obtain ⟨branchRead, nodes, spells⟩ := inner (0 + 1 + byteSize (p ++ ['[']) + 1)
  have shape : p ++ '[' :: '"' :: (t ++ branchEnd) = p ++ ['['] ++ '"' :: (t ++ branchEnd) := by
    simp
  have read := read_flag path (d := '[') (by decide) (by decide) ('"' :: (t ++ branchEnd))
  have ends : (t ++ branchEnd).drop (t.length + 1) = [']', '\x7d'] := by
    rw [List.drop_length_add_append]
    rfl
  rw [shape] at read
  have found := readConstruct_single (by decide) read (Prod.ext branchRead rfl) ends
  have readable := readable_flag path other spells
  rw [convert, convertWith, String.toList_ofList, flagged, shape, segmentsFrom_brace,
    construct_read _ rfl (by decide), found]
  simp only [Option.filter_some, readable, ↓reduceIte]
  rw [List.length_nil, Nat.sub_zero, List.drop_length, segmentsFrom]
  simp [Segment.written]

def Segment.isKept : Segment → Bool
  | .kept _ => true
  | _ => false

/-- Every output that is kept outside costs a branch one more brace. -/
theorem inBranch_length (segments : List Segment) :
    (segments.flatMap Segment.inBranch).length =
      (segments.flatMap Segment.written).length + segments.countP Segment.isKept := by
  induction segments with
  | nil => rfl
  | cons segment segments ih =>
    have one : segment.inBranch.length =
        segment.written.length + if segment.isKept then 1 else 0 := by
      cases segment <;> rfl
    rw [List.flatMap_cons, List.flatMap_cons, List.length_append, List.length_append, ih, one,
      List.countP_cons]
    omega

theorem inBranch_eq_iff (segments : List Segment) :
    segments.flatMap Segment.inBranch = segments.flatMap Segment.written ↔
      ∀ s ∈ segments, s.isKept = false := by
  constructor
  · intro same s member
    have lengths := inBranch_length segments
    rw [same] at lengths
    have none : segments.countP Segment.isKept = 0 := by omega
    simpa using List.countP_eq_zero.1 none s member
  · intro none
    refine List.flatMap_congr fun s member => ?_
    have notKept := none s member
    cases s with
    | kept text => cases notKept
    | _ => rfl

theorem conditional_path (p : String) (text : List Char) :
    String.ofList (conditional ⟨p.toList, [], none⟩ text []) =
      "\x7bif " ++ p ++ "\x7d" ++ String.ofList text ++ "\x7b/if\x7d" := by
  apply String.toList_inj.1
  rw [conditional_eq, if_pos rfl]
  simp [braced, Head.opening, Head.condition, Head.operand]

/-- A branch is converted like text outside of constructs, except that what is kept there gets its
brace doubled; so the two agree just when nothing is kept. -/
theorem branch_converted_like_text_iff {p t : String}
    (path : (splitAtChar '.' p.toList).all isSegment = true) (other : p ≠ "not")
    (plain : ∀ c ∈ t.toList, c ≠ '\\' ∧ isQuote c = false) :
    let segments := (segmentsFrom (construct 0) 0 t.toList ⟨[], []⟩).1
    let converted := (convert ("\x7b" ++ p ++ "[\"" ++ t ++ "\"]\x7d")).value
    converted = "\x7bif " ++ p ++ "\x7d" ++ String.ofList (segments.flatMap Segment.inBranch) ++
        "\x7b/if\x7d" ∧
      (converted = "\x7bif " ++ p ++ "\x7d" ++ (convert t).value ++ "\x7b/if\x7d" ↔
        ∀ s ∈ segments, s.isKept = false) := by
  intro segments converted
  have notKeyword : p.toList ≠ "not".toList := fun same => other (String.toList_inj.1 same)
  have source : "\x7b" ++ p ++ "[\"" ++ t ++ "\"]\x7d" =
      String.ofList (flagged p.toList t.toList) := by
    apply String.toList_inj.1
    simp [flagged, branchEnd]
  have found : converted = "\x7bif " ++ p ++ "\x7d" ++
      String.ofList (segments.flatMap Segment.inBranch) ++ "\x7b/if\x7d" := by
    have written := convert_flagged path notKeyword plain
    rw [← source] at written
    exact written.trans (conditional_path p _)
  have outside : (convert t).value = String.ofList (segments.flatMap Segment.written) := rfl
  refine ⟨found, ?_⟩
  rw [found, outside, ← inBranch_eq_iff]
  constructor
  · intro same
    have lists := congrArg String.toList same
    simp only [String.toList_append, String.toList_ofList] at lists
    exact List.append_cancel_left (List.append_cancel_right lists)
  · intro same
    rw [same]

/-- The output in the branch is a template already, and as a text by itself it is kept. -/
theorem branch_output_not_kept :
    (convert ("\x7b" ++ "a" ++ "[\"" ++ "\x7bb|upper\x7d" ++ "\"]\x7d")).value ≠
      "\x7bif " ++ "a" ++ "\x7d" ++ (convert "\x7bb|upper\x7d").value ++ "\x7b/if\x7d" := by
  intro same
  have lists := congrArg String.toList same
  revert lists
  decide +kernel

theorem branch_converted_like_text_mixed :
    let t := "\x7bb::upper\x7d \x7bb|upper\x7d \x7bc"
    let converted := (convert ("\x7b" ++ "a.b" ++ "[\"" ++ t ++ "\"]\x7d")).value
    converted = "\x7bif a.b\x7d\x7bb|upper\x7d \x7b\x7bb|upper\x7d \x7b\x7bc\x7b/if\x7d" ∧
      converted ≠ "\x7bif " ++ "a.b" ++ "\x7d" ++ (convert t).value ++ "\x7b/if\x7d" := by
  intro t converted
  have all : t.toList.all (fun c => decide (c ≠ '\\' ∧ isQuote c = false)) = true := by
    decide
  obtain ⟨found, alike⟩ := branch_converted_like_text_iff (p := "a.b") (t := t)
    (by decide) (by decide)
    fun c member => of_decide_eq_true (List.all_eq_true.1 all c member)
  have text : (segmentsFrom (construct 0) 0 t.toList ⟨[], []⟩).1.flatMap Segment.inBranch =
      "\x7bb|upper\x7d \x7b\x7bb|upper\x7d \x7b\x7bc".toList := by decide +kernel
  have kept : (segmentsFrom (construct 0) 0 t.toList ⟨[], []⟩).1.all (!Segment.isKept ·) =
      false := by decide +kernel
  constructor
  · rw [text, String.ofList_toList] at found
    refine found.trans (String.toList_inj.1 ?_)
    decide +kernel
  · intro same
    rw [List.all_eq_true.2 fun s member => by simp [alike.1 same s member]] at kept
    cases kept

end TitleTemplate.Legacy
