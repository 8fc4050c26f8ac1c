import Mathlib.Data.List.TakeWhile
import TitleTemplate.Proofs.Bytes.Offsets
import TitleTemplate.Proofs.Legacy.Places

/-!
Heads of constructs, read at offsets of the source. Every reader here divides the source at the
offsets it computes and answers with the offset behind what it has read; its twin over characters
answers with the text behind that. The two agree at every end of the source.
-/
namespace TitleTemplate.Legacy

def offsetOf (source rest : List Char) : Nat := byteSize source - byteSize rest

/-- A result with the offset of what is left in place of what is left. -/
def located {α : Type} (source : List Char) (found : Option (α × List Char)) : Option (α × Nat) :=
  found.map fun (a, rest) => (a, offsetOf source rest)

/-- The rest of a quoted text by the index of each character, and the index behind its quote. -/
def quotedFrom (quote : Char) (index : Nat) : List Char → Option (List Char × Nat)
  | [] => none
  | '\\' :: c :: cs =>
    (quotedFrom quote (index + 1 + c.utf8Size) cs).map fun (text, stop) => (c :: text, stop)
  | ['\\'] => none
  | c :: cs =>
    if c = quote then some ([], index + 1)
    else (quotedFrom quote (index + c.utf8Size) cs).map fun (text, stop) => (c :: text, stop)

def operators : List (List Char × Comparison) := [
  (['!', '='], .ne), (['>', '='], .gte), (['<', '='], .lte), (['=', '='], .eq), (['='], .eq),
  (['>'], .gt), (['<'], .lt), (['~'], .contains)]

section Programs
variable (source : List Char)

def comesAt (text : List Char) (start : Nat) : Sliced Bool := do
  return text.isPrefixOf (← behind source start)

def quotedAt (start : Nat) : Sliced (Option (List Char × Nat)) := do
  match ← behind source start with
  | [] => return none
  | quote :: cs =>
    return (quotedFrom quote quote.utf8Size cs).map fun (text, stop) => (text, start + stop)

def bareAt (ends : Char → Bool) (must : Bool) (start : Nat) :
    Sliced (Option (List Char × Nat)) := do
  let rest ← behind source start
  let length := byteSize (rest.takeWhile (!ends ·))
  if must && rest.all (!ends ·) then return none
  if (← behind rest length).head? = some '\x7b' then return none
  let text := trimBlanks (← upTo rest length)
  if text = [] then return none
  return some (text, start + length)

def comparedAt (start : Nat) : Sliced (Option (List Char × Nat)) := do
  if (← behind source start).head?.any isQuote then quotedAt source start
  else bareAt source (· ∈ ['[', '\x7d', '\x7b']) false start

def argumentAt (start : Nat) : Sliced (Option (Argument × Nat)) := do
  if (← behind source start).head?.any isQuote then
    return (← quotedAt source start).map fun (text, stop) => (.quoted text, stop)
  else
    return (← bareAt source (· ∈ [',', ')', '\x7b']) true start).map fun (text, stop) =>
      (.bare text, stop)

def blanksAt (start : Nat) : Sliced Nat := do
  let rest ← behind source start
  return start + (byteSize rest - byteSize (skipBlanks rest))

def argumentTurn : List Argument × Nat →
    Sliced ((List Argument × Nat) ⊕ Option (List Argument × Nat)) := fun (read, pos) => do
  let pos ← blanksAt source pos
  if read.isEmpty && (← comesAt source [')'] pos) then return .inr (some ([], pos + 1))
  match ← argumentAt source pos with
  | none => return .inr none
  | some (a, pos) =>
    let pos ← blanksAt source pos
    match (← behind source pos).head? with
    | some ',' => return .inl (read ++ [a], pos + 1)
    | some ')' => return .inr (some (read ++ [a], pos + 1))
    | _ => return .inr none

def argumentsAt (read : List Argument) (start : Nat) : Sliced (Option (List Argument × Nat)) :=
  repeatM (argumentTurn source) (read, start)

def stepAt (start : Nat) : Sliced (Option ((Step ⊕ Check) × Nat)) := do
  let rest ← behind source start
  match operators.find? (·.1.isPrefixOf rest) with
  | some op =>
    return (← comparedAt source (start + byteSize op.1)).map fun (text, stop) =>
      (.inr (.compare op.2 text), stop)
  | none =>
    let length := byteSize (rest.takeWhile isStepChar)
    if length = 0 then return none
    let name ← between source start (start + length)
    let pos := start + length
    match check? name with
    | some check => return some (.inr check, pos)
    | none =>
      if ← comesAt source ['('] pos then
        return (← argumentsAt source [] (pos + 1)).map fun (as, stop) =>
          (.inl ⟨name, some as⟩, stop)
      else return some (.inl ⟨name, none⟩, pos)

def stepTurn : List Step × Option Check × Nat →
    Sliced ((List Step × Option Check × Nat) ⊕ Option ((List Step × Option Check) × Nat)) :=
  fun (steps, check, pos) => do
    if !(← comesAt source [':', ':'] pos) then return .inr (some ((steps, check), pos))
    if check.isSome then return .inr none
    match ← stepAt source (pos + 2) with
    | none => return .inr none
    | some (.inl step, pos) => return .inl (steps ++ [step], check, pos)
    | some (.inr check, pos) => return .inl (steps, some check, pos)

/-- Steps, and perhaps a check, after those read so far. Nothing may come after a check. -/
def stepsAt (steps : List Step) (check : Option Check) (start : Nat) :
    Sliced (Option ((List Step × Option Check) × Nat)) :=
  repeatM (stepTurn source) (steps, check, start)

def headAt (start : Nat) : Sliced (Option (Head × Nat)) := do
  let rest ← behind source start
  let length := byteSize (rest.takeWhile fun c => c = '.' || isSegmentChar c)
  let path ← between source start (start + length)
  if (splitAtChar '.' path).all isSegment then
    return (← stepsAt source [] none (start + length)).map fun ((steps, check), stop) =>
      (⟨path, steps, check⟩, stop)
  else return none

end Programs

variable {source : List Char}

/-! An end of a source has one place there, and the source can be divided at it. -/

section Places
variable {offset : Nat} {cs : List Char}

theorem place_offset (place : Place source offset cs) : offsetOf source cs = offset := by
  obtain ⟨before, rfl, rfl⟩ := place
  rw [offsetOf, byteSize_append, Nat.add_sub_cancel]

theorem place_ends (place : Place source offset cs) : cs <:+ source := by
  obtain ⟨before, rfl, -⟩ := place
  exact List.suffix_append before cs

theorem place_of_ends (ends : cs <:+ source) : Place source (offsetOf source cs) cs := by
  obtain ⟨before, rfl⟩ := ends
  exact ⟨before, rfl, by rw [offsetOf, byteSize_append, Nat.add_sub_cancel]⟩

theorem behind_place (place : Place source offset cs) : behind source offset = pure cs := by
  obtain ⟨before, rfl, rfl⟩ := place
  exact behind_append before cs

theorem between_place {taken : List Char} (place : Place source offset (taken ++ cs)) :
    between source offset (offset + byteSize taken) = pure taken := by
  obtain ⟨before, rfl, rfl⟩ := place
  exact between_append before taken cs

theorem comesAt_place (place : Place source offset cs) (text : List Char) :
    comesAt source text offset = pure (text.isPrefixOf cs) := by
  rw [comesAt, behind_place place, pure_bind]

end Places

theorem offsetOf_append {taken rest : List Char} (ends : taken ++ rest <:+ source) :
    offsetOf source (taken ++ rest) + byteSize taken = offsetOf source rest :=
  (place_offset (place_append (place_of_ends ends))).symm

theorem offsetOf_cons {c : Char} {rest : List Char} (ends : c :: rest <:+ source) :
    offsetOf source (c :: rest) + c.utf8Size = offsetOf source rest :=
  (place_offset (place_cons (place_of_ends ends))).symm

theorem suffix_of_append {taken rest : List Char} (ends : taken ++ rest <:+ source) :
    rest <:+ source := (List.suffix_append taken rest).trans ends

theorem behind_offsetOf {rest : List Char} (ends : rest <:+ source) :
    behind source (offsetOf source rest) = pure rest := behind_place (place_of_ends ends)

theorem between_offsetOf {taken rest : List Char} (ends : taken ++ rest <:+ source) :
    between source (offsetOf source (taken ++ rest)) (offsetOf source rest) = pure taken := by
  rw [← offsetOf_append ends]
  exact between_place (place_of_ends ends)

theorem comesAt_eq {rest : List Char} (ends : rest <:+ source) (text : List Char) :
    comesAt source text (offsetOf source rest) = pure (text.isPrefixOf rest) :=
  comesAt_place (place_of_ends ends) text

/-! What a run of characters takes of an end of the source. -/

section Runs
variable {cs : List Char} (ends : cs <:+ source) (p : Char → Bool)
include ends

theorem offsetOf_dropWhile :
    offsetOf source cs + byteSize (cs.takeWhile p) = offsetOf source (cs.dropWhile p) := by
  have whole : cs.takeWhile p ++ cs.dropWhile p = cs := List.takeWhile_append_dropWhile
  have next := offsetOf_append (whole.symm ▸ ends)
  rwa [whole] at next

theorem between_takeWhile :
    between source (offsetOf source cs) (offsetOf source (cs.dropWhile p)) =
      pure (cs.takeWhile p) := by
  have whole : cs.takeWhile p ++ cs.dropWhile p = cs := List.takeWhile_append_dropWhile
  have taken := between_offsetOf (whole.symm ▸ ends)
  rwa [whole] at taken

end Runs

theorem blanksAt_eq {rest : List Char} (ends : rest <:+ source) :
    blanksAt source (offsetOf source rest) = pure (offsetOf source (skipBlanks rest)) := by
  have whole : rest.takeWhile isBlank ++ skipBlanks rest = rest :=
    List.takeWhile_append_dropWhile
  have sizes := congrArg byteSize whole
  rw [byteSize_append] at sizes
  have next : _ = offsetOf source (skipBlanks rest) := offsetOf_dropWhile ends isBlank
  rw [blanksAt, behind_offsetOf ends, pure_bind, ← next]
  exact congrArg pure (by omega)

theorem byteSize_suffix {rest cs : List Char} (ends : rest <:+ cs) :
    byteSize rest ≤ byteSize cs := byteSize_le_of_sublist ends.sublist

theorem quotedFrom_eq {quote : Char} (one : quote.utf8Size = 1) (index : Nat) (cs : List Char) :
    quotedFrom quote index cs =
      (quotedText quote cs).map fun (text, rest) =>
        (text, index + (byteSize cs - byteSize rest)) := by
  fun_induction quotedText quote cs generalizing index with
  | case1 => rfl
  | case2 c cs ih =>
    rw [quotedFrom, ih]
    cases found : quotedText quote cs with
    | none => rfl
    | some parts =>
      have shorter := byteSize_suffix (quotedText_suffix found)
      have escape : byteSize ('\\' :: c :: cs) = 1 + (c.utf8Size + byteSize cs) := rfl
      simp only [Option.map_some, escape, Option.some_inj, Prod.mk.injEq, true_and]
      omega
  | case3 => rfl
  | case4 cs noEscape =>
    rw [quotedFrom, if_pos rfl]
    · simp [byteSize_cons, one]
    · assumption
    · assumption
  | case5 c cs noEscape notLast other ih =>
    rw [quotedFrom, if_neg other, ih]
    · cases found : quotedText quote cs with
      | none => rfl
      | some parts =>
        have shorter := byteSize_suffix (quotedText_suffix found)
        simp only [Option.map_some, byteSize_cons, Option.some_inj, Prod.mk.injEq, true_and]
        omega
    · assumption
    · assumption

theorem utf8Size_quote {c : Char} (quotes : isQuote c = true) : c.utf8Size = 1 := by
  rw [isQuote, Bool.or_eq_true, decide_eq_true_iff, decide_eq_true_iff] at quotes
  rcases quotes with rfl | rfl <;> rfl

theorem quotedAt_eq {quote : Char} {cs : List Char} (quotes : isQuote quote = true)
    (ends : quote :: cs <:+ source) :
    quotedAt source (offsetOf source (quote :: cs)) =
      pure (located source (quotedText quote cs)) := by
  have one := utf8Size_quote quotes
  have next := offsetOf_cons ends
  rw [quotedAt, behind_offsetOf ends, pure_bind]
  dsimp only
  rw [quotedFrom_eq one, located]
  cases found : quotedText quote cs with
  | none => rfl
  | some parts =>
    have shorter := byteSize_suffix (quotedText_suffix found)
    have whole := byteSize_suffix ((List.suffix_cons quote cs).trans ends)
    refine congrArg (fun stop => pure (some (parts.1, stop))) ?_
    simp only [offsetOf] at next ⊢
    omega

theorem bareAt_eq {cs : List Char} (ends : cs <:+ source) (closes : Char → Bool) (must : Bool) :
    bareAt source closes must (offsetOf source cs) =
      pure (located source
        ((bareText closes cs).filter fun found => !must || !found.2.isEmpty)) := by
  have whole : cs.takeWhile (!closes ·) ++ cs.dropWhile (!closes ·) = cs :=
    List.takeWhile_append_dropWhile
  have up := upTo_append (cs.takeWhile (!closes ·)) (cs.dropWhile (!closes ·))
  have after := behind_append (cs.takeWhile (!closes ·)) (cs.dropWhile (!closes ·))
  have missing : cs.all (!closes ·) = (cs.dropWhile (!closes ·)).isEmpty := by
    rw [Bool.eq_iff_iff, List.isEmpty_iff, List.dropWhile_eq_nil_iff, List.all_eq_true]
  rw [whole] at up after
  rw [bareAt, behind_offsetOf ends, pure_bind, missing]
  dsimp only
  rw [after, up, pure_bind, pure_bind, offsetOf_dropWhile ends, bareText]
  generalize cs.dropWhile (!closes ·) = rest
  generalize trimBlanks (cs.takeWhile (!closes ·)) = text
  by_cases stops : text = [] ∨ rest.head? = some '\x7b'
  · rw [if_pos stops]
    rcases stops with empty | brace
    · simp [empty, located]
    · simp [brace, located]
  · rw [if_neg stops]
    rw [not_or] at stops
    rw [Option.filter_some, ← Bool.not_and, if_neg stops.2, if_neg stops.1]
    cases must && rest.isEmpty <;> rfl

theorem comparedAt_eq {cs : List Char} (ends : cs <:+ source) :
    comparedAt source (offsetOf source cs) = pure (located source (comparedText cs)) := by
  have bare := bareAt_eq ends (· ∈ ['[', '\x7d', '\x7b']) false
  have all (found : Option (List Char × List Char)) : found.filter (fun _ => true) = found := by
    cases found <;> rfl
  simp only [Bool.not_false, Bool.true_or, all] at bare
  rw [comparedAt, behind_offsetOf ends, pure_bind]
  cases cs with
  | nil => exact bare
  | cons c after =>
    rw [List.head?_cons, Option.any_some, comparedText]
    split
    · exact quotedAt_eq ‹_› ends
    · exact bare

/-- A bare argument that nothing ends is refused at once; it would be refused for what comes
next. -/
theorem argumentAt_eq {cs : List Char} (ends : cs <:+ source) :
    argumentAt source (offsetOf source cs) = pure (located source (readArgument cs)) ∨
      argumentAt source (offsetOf source cs) = pure none ∧ ∃ a, readArgument cs = some (a, []) := by
  have bare := bareAt_eq ends (· ∈ [',', ')', '\x7b']) true
  rw [argumentAt, behind_offsetOf ends, pure_bind]
  cases cs with
  | nil =>
    left
    simp only [List.head?_nil, Option.any_none, Bool.false_eq_true, ↓reduceIte, bare, pure_bind]
    rfl
  | cons c after =>
    rw [List.head?_cons, Option.any_some, readArgument]
    split
    · left
      rw [quotedAt_eq ‹_› ends, pure_bind]
      cases quotedText c after <;> rfl
    · rw [bare, pure_bind]
      cases found : bareText (· ∈ [',', ')', '\x7b']) (c :: after) with
      | none => exact Or.inl rfl
      | some parts =>
        obtain ⟨text, rest⟩ := parts
        cases rest with
        | nil => exact Or.inr ⟨rfl, _, rfl⟩
        | cons d rest => exact Or.inl rfl

theorem isPrefixOf_singleton (c : Char) (cs : List Char) :
    [c].isPrefixOf cs = (cs.head? == some c) := by
  cases cs with
  | nil => rfl
  | cons d cs =>
    rw [List.isPrefixOf_cons_cons, List.isPrefixOf_nil_left, Bool.and_true, List.head?_cons,
      Bool.eq_iff_iff, beq_iff_eq, beq_iff_eq, Option.some_inj]
    exact eq_comm

theorem argumentTurn_eq {cs : List Char} (ends : cs <:+ source) {read : List Argument}
    (more : read = [] → (skipBlanks cs).head? ≠ some ')') :
    argumentTurn source (read, offsetOf source cs) =
      pure (match readArgument (skipBlanks cs) with
        | none => .inr none
        | some (a, rest) =>
          match skipBlanks rest with
          | ',' :: others => .inl (read ++ [a], offsetOf source others)
          | ')' :: rest => .inr (some (read ++ [a], offsetOf source rest))
          | _ => .inr none) := by
  have here := (skipBlanks_suffix cs).trans ends
  have opens : (read.isEmpty && [')'].isPrefixOf (skipBlanks cs)) = false := by
    rw [isPrefixOf_singleton]
    cases read with
    | nil => simpa using more rfl
    | cons a read => rfl
  rw [argumentTurn, blanksAt_eq ends, pure_bind, comesAt_eq here, pure_bind, opens,
    if_neg Bool.false_ne_true]
  rcases argumentAt_eq here with found | ⟨refused, a, found⟩
  · rw [found, pure_bind]
    cases result : readArgument (skipBlanks cs) with
    | none => rfl
    | some parts =>
      obtain ⟨a, rest⟩ := parts
      have later := (readArgument_suffix result).trans here
      have behindBlanks := (skipBlanks_suffix rest).trans later
      dsimp only [located, Option.map_some]
      rw [blanksAt_eq later, pure_bind, behind_offsetOf behindBlanks, pure_bind]
      cases shape : skipBlanks rest with
      | nil => rfl
      | cons d others =>
        rw [shape] at behindBlanks
        by_cases comma : d = ','
        · subst comma
          have next : offsetOf source (',' :: others) + 1 = _ := offsetOf_cons behindBlanks
          simp only [List.head?_cons, next]
        · by_cases close : d = ')'
          · subst close
            have next : offsetOf source (')' :: others) + 1 = _ := offsetOf_cons behindBlanks
            simp only [List.head?_cons, next]
          · simp [comma, close]
  · rw [refused, pure_bind, found]
    rfl

theorem argumentsAt_from {cs : List Char} (ends : cs <:+ source) {read : List Argument}
    (more : read = [] → (skipBlanks cs).head? ≠ some ')') :
    argumentsAt source read (offsetOf source cs) =
      pure (located source ((readArgumentsFrom cs).map fun (as, rest) => (read ++ as, rest))) := by
  fun_induction readArgumentsFrom cs generalizing read with
  | case1 cs none =>
    have turn := argumentTurn_eq ends more
    simp only [none] at turn
    exact repeat_ends turn
  | case2 cs a after first others comma ih =>
    have turn := argumentTurn_eq ends more
    simp only [first, comma] at turn
    have here := (comma ▸ skipBlanks_suffix after).trans
      ((readArgument_suffix first).trans ((skipBlanks_suffix cs).trans ends))
    refine (repeat_again turn).trans ((ih ((List.suffix_cons ',' others).trans here) ?_).trans ?_)
    · simp
    cases readArgumentsFrom others <;> simp [located]
  | case3 cs a after first rest close =>
    have turn := argumentTurn_eq ends more
    simp only [first, close] at turn
    exact repeat_ends turn
  | case4 cs a after first notComma notClose =>
    have turn := argumentTurn_eq ends more
    simp only [first] at turn
    exact repeat_ends turn

theorem argumentsAt_eq {cs : List Char} (ends : cs <:+ source) :
    argumentsAt source [] (offsetOf source cs) = pure (located source (readArguments cs)) := by
  have here := (skipBlanks_suffix cs).trans ends
  rw [readArguments]
  split
  · rename_i rest close
    rw [close] at here
    have next : offsetOf source (')' :: rest) + 1 = _ := offsetOf_cons here
    refine repeat_ends ?_
    rw [argumentTurn, blanksAt_eq ends, pure_bind, close, comesAt_eq here, pure_bind, next]
    rfl
  · rename_i other
    rw [argumentsAt_from ends fun _ begins => ?_]
    · cases readArgumentsFrom cs <;> rfl
    · obtain ⟨rest, close⟩ := List.head?_eq_some_iff.1 begins
      exact other rest close

theorem operator_found {op : List Char × Comparison} {rest : List Char}
    (found : operators.find? (·.1.isPrefixOf (op.1 ++ rest)) = some op) :
    operator? (op.1 ++ rest) = some (op.2, rest) := by
  have member := List.mem_of_find?_eq_some found
  simp only [operators, List.mem_cons, List.not_mem_nil, or_false] at member
  rcases member with rfl | rfl | rfl | rfl | rfl | rfl | rfl | rfl
  -- An operator of one character that could be the first of two.
  case inr.inr.inr.inr.inl | inr.inr.inr.inr.inr.inl | inr.inr.inr.inr.inr.inr.inl =>
    rw [operator?.eq_def]
    split <;> simp_all [operators]
  all_goals rfl

theorem operator_missing {cs : List Char}
    (missing : operators.find? (·.1.isPrefixOf cs) = none) : operator? cs = none := by
  rw [operator?.eq_def]
  split <;> simp_all [operators]

def readNext (cs : List Char) : Option ((Step ⊕ Check) × List Char) :=
  match operator? cs with
  | some (op, rest) => (comparedText rest).map fun (text, rest) => (.inr (.compare op text), rest)
  | none =>
    let name := cs.takeWhile isStepChar
    if name = [] then none
    else
      match check? name with
      | some check => some (.inr check, cs.dropWhile isStepChar)
      | none => (readStep cs).map fun (step, rest) => (.inl step, rest)

theorem stepAt_eq {cs : List Char} (ends : cs <:+ source) :
    stepAt source (offsetOf source cs) = pure (located source (readNext cs)) := by
  rw [stepAt, behind_offsetOf ends, pure_bind, readNext]
  cases found : operators.find? (·.1.isPrefixOf cs) with
  | some op =>
    have begins : op.1.isPrefixOf cs := by
      have begins := List.find?_some found
      exact begins
    obtain ⟨rest, rfl⟩ := List.isPrefixOf_iff_prefix.1 begins
    dsimp only
    rw [offsetOf_append ends, comparedAt_eq (suffix_of_append ends), operator_found found,
      pure_bind]
    dsimp only
    cases comparedText rest <;> rfl
  | none =>
    have behindName := (List.dropWhile_suffix isStepChar).trans ends
    rw [operator_missing found]
    dsimp only
    simp only [byteSize_eq_zero]
    split
    · rfl
    rw [offsetOf_dropWhile ends, between_takeWhile ends, pure_bind]
    cases check? (cs.takeWhile isStepChar) with
    | some check => rfl
    | none =>
      dsimp only
      rw [comesAt_eq behindName, pure_bind, isPrefixOf_singleton, readStep]
      cases parens : cs.dropWhile isStepChar with
      | nil => rfl
      | cons d after =>
        by_cases opens : d = '('
        · subst opens
          rw [parens] at behindName
          have start : offsetOf source ('(' :: after) + 1 = _ := offsetOf_cons behindName
          simp only [List.head?_cons, beq_self_eq_true, ↓reduceIte]
          rw [start, argumentsAt_eq ((List.suffix_cons '(' after).trans behindName), pure_bind]
          cases readArguments after <;> rfl
        · simp [opens, located]

theorem readSteps_colons (cs : List Char) :
    readSteps (':' :: ':' :: cs) =
      match readNext cs with
      | none => none
      | some (.inr check, rest) => closing check rest
      | some (.inl step, rest) =>
        (readSteps rest).map fun (steps, check, rest) => (step :: steps, check, rest) := by
  rw [readSteps, readNext]
  cases operator? cs with
  | some found =>
    obtain ⟨op, rest⟩ := found
    dsimp only
    cases comparedText rest <;> rfl
  | none =>
    dsimp only
    split
    · rfl
    · cases check? (cs.takeWhile isStepChar) with
      | some check => rfl
      | none =>
        dsimp only
        split <;> rename_i read <;> rw [read] <;> rfl

theorem readNext_suffix {cs rest : List Char} {next : Step ⊕ Check}
    (read : readNext cs = some (next, rest)) : rest <:+ cs := by
  rw [readNext] at read
  cases found : operator? cs with
  | some op =>
    rw [found] at read
    obtain ⟨⟨text, after⟩, compared, same⟩ := Option.map_eq_some_iff.1 read
    obtain ⟨-, rfl⟩ := Prod.mk.inj same
    exact (comparedText_suffix compared).trans (operator_suffix found)
  | none =>
    rw [found] at read
    dsimp only at read
    split at read
    · cases read
    · split at read
      · obtain ⟨-, rfl⟩ := Prod.mk.inj (Option.some.inj read)
        exact List.dropWhile_suffix isStepChar
      · obtain ⟨⟨step, after⟩, found, same⟩ := Option.map_eq_some_iff.1 read
        obtain ⟨-, rfl⟩ := Prod.mk.inj same
        exact readStep_suffix found

theorem readSteps_end {cs : List Char} (missing : [':', ':'].isPrefixOf cs = false) :
    readSteps cs = some ([], none, cs) := by
  rw [readSteps.eq_def]
  split
  · simp at missing
  · rfl

theorem stepTurn_end {cs : List Char} (ends : cs <:+ source) (steps : List Step)
    (check : Option Check) (missing : [':', ':'].isPrefixOf cs = false) :
    stepTurn source (steps, check, offsetOf source cs) =
      pure (.inr (some ((steps, check), offsetOf source cs))) := by
  rw [stepTurn, comesAt_eq ends, pure_bind, missing]
  rfl

theorem stepTurn_refused {cs : List Char} (ends : ':' :: ':' :: cs <:+ source) (steps : List Step)
    (check : Check) :
    stepTurn source (steps, some check, offsetOf source (':' :: ':' :: cs)) =
      pure (.inr none) := by
  rw [stepTurn, comesAt_eq ends, pure_bind]
  rfl

theorem stepTurn_next {cs : List Char} (ends : ':' :: ':' :: cs <:+ source) (steps : List Step) :
    stepTurn source (steps, none, offsetOf source (':' :: ':' :: cs)) =
      pure (match readNext cs with
        | none => .inr none
        | some (.inl step, rest) => .inl (steps ++ [step], none, offsetOf source rest)
        | some (.inr check, rest) => .inl (steps, some check, offsetOf source rest)) := by
  have start : offsetOf source ([':', ':'] ++ cs) + byteSize [':', ':'] = _ :=
    offsetOf_append ends
  rw [stepTurn, comesAt_eq ends, pure_bind]
  refine (congrArg (stepAt source · >>= _) start).trans ?_
  rw [stepAt_eq ((colons_suffix cs).trans ends), pure_bind]
  cases readNext cs with
  | none => rfl
  | some found => obtain ⟨step | check, rest⟩ := found <;> rfl

theorem stepsAt_closing {cs : List Char} (ends : cs <:+ source) (steps : List Step)
    (check : Check) :
    stepsAt source steps (some check) (offsetOf source cs) =
      pure ((closing check cs).map fun (later, check, rest) =>
        ((steps ++ later, check), offsetOf source rest)) := by
  refine repeat_ends ?_
  cases colons : [':', ':'].isPrefixOf cs with
  | true =>
    obtain ⟨after, rfl⟩ := List.isPrefixOf_iff_prefix.1 colons
    exact stepTurn_refused ends steps check
  | false =>
    have kept : closing check cs = some ([], some check, cs) := by
      rw [closing.eq_def]
      split
      · simp at colons
      · rfl
    rw [stepTurn_end ends steps (some check) colons, kept, Option.map_some]
    dsimp only
    rw [List.append_nil]

theorem stepsAt_eq {cs : List Char} (ends : cs <:+ source) (steps : List Step) :
    stepsAt source steps none (offsetOf source cs) =
      pure ((readSteps cs).map fun (later, check, rest) =>
        ((steps ++ later, check), offsetOf source rest)) := by
  induction size : cs.length using Nat.strongRecOn generalizing cs steps with
  | ind n ih =>
    cases colons : [':', ':'].isPrefixOf cs with
    | false =>
      refine repeat_ends ?_
      rw [stepTurn_end ends steps none colons, readSteps_end colons, Option.map_some]
      dsimp only
      rw [List.append_nil]
    | true =>
      obtain ⟨after, rfl⟩ := List.isPrefixOf_iff_prefix.1 colons
      have turn := @stepTurn_next source after ends steps
      have read : readSteps ([':', ':'] ++ after) = _ := readSteps_colons after
      rw [read]
      cases next : readNext after with
      | none =>
        rw [next] at turn
        exact repeat_ends turn
      | some found =>
        obtain ⟨step | check, rest⟩ := found
        all_goals
          rw [next] at turn
          have left := readNext_suffix next
          have here := left.trans ((colons_suffix after).trans ends)
        · have shorter : rest.length < n := by
            have all := left.length_le
            rw [← size, List.length_append]
            exact Nat.lt_of_le_of_lt all (Nat.lt_add_of_pos_left (by decide))
          refine ((repeat_again turn).trans
            (ih rest.length shorter here (steps ++ [step]) rfl)).trans ?_
          dsimp only
          cases readSteps rest <;> simp
        · exact (repeat_again turn).trans (stepsAt_closing here steps check)

theorem headAt_eq {cs : List Char} (ends : cs <:+ source) :
    headAt source (offsetOf source cs) = pure (located source (Head.read cs)) := by
  rw [headAt, behind_offsetOf ends, pure_bind]
  dsimp only
  rw [offsetOf_dropWhile ends, between_takeWhile ends, pure_bind, Head.read]
  dsimp only
  split
  · rw [stepsAt_eq ((List.dropWhile_suffix _).trans ends), pure_bind]
    cases readSteps (cs.dropWhile fun c => c = '.' || isSegmentChar c) <;> rfl
  · rfl

end TitleTemplate.Legacy
