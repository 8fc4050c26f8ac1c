import TitleTemplate.Proofs.Bytes.Heads
import TitleTemplate.Proofs.Legacy.Following

/-!
Constructs read at offsets of the source. What has been learned about a brace is kept with the
offset behind the construct, so that it leads to the same place whoever asks. The readers at offsets
find what the readers over characters find.
-/
namespace TitleTemplate.Legacy

structure Found where
  stop : Nat
  text : List Char

/-- What has been learned about braces, by offsets alone, and the events, both latest first. -/
structure Memory where
  known : List (Nat × Option Found)
  events : List Event
  deriving Inhabited

def Memory.learn (m : Memory) (offset : Nat) (found : Option Found) : Memory :=
  { m with known := (offset, found) :: m.known }

def Memory.tell (m : Memory) (e : Event) : Memory := { m with events := e :: m.events }

abbrev OffsetReader : Type := Nat → Memory → Sliced (Option Found × Memory)

section Programs
variable (source : List Char)

def branchTurn (inside : OffsetReader) (quote : Char) : Nat × List Char × Memory →
    Sliced ((Nat × List Char × Memory) ⊕ (Option Found × Memory)) := fun (pos, out, memory) => do
  match ← behind source pos with
  | [] => return .inr (none, memory)
  | c :: _ =>
    if c = '\\' then
      let next := (← behind source (pos + 1)).head?
      match next.filter fun d => d = quote ∨ d = '\\' with
      | some d => return .inl (pos + 1 + d.utf8Size, out ++ [d], memory)
      | none => return .inl (pos + 1, out ++ ['\\'], memory)
    else if c = '\x7b' then
      match ← inside pos memory with
      | (some found, memory) => return .inl (found.stop, out ++ found.text, memory)
      | (none, memory) => return .inl (pos + 1, out ++ ['\x7b', '\x7b'], memory)
    else if c = quote then return .inr (some ⟨pos + 1, out⟩, memory)
    else return .inl (pos + c.utf8Size, out ++ [c], memory)

def branchAt (inside : OffsetReader) : OffsetReader := fun start memory => do
  match (← behind source start).head?.filter isQuote with
  | some quote => repeatM (branchTurn source inside quote) (start + 1, [], memory)
  | none => return (none, memory)

def closedAt (text : List Char) (pos : Nat) : Sliced (Option Found) := do
  if !(← comesAt source [']'] pos) then return none
  if !(← comesAt source ['\x7d'] (pos + 1)) then return none
  return some ⟨pos + 1 + 1, text⟩

def branchesAt (inside : OffsetReader) (head : Head) : OffsetReader := fun start memory => do
  match ← branchAt source inside start memory with
  | (none, memory) => return (none, memory)
  | (some first, memory) =>
    if ← comesAt source ['|', '|'] first.stop then
      match ← branchAt source inside (first.stop + 2) memory with
      | (none, memory) => return (none, memory)
      | (some second, memory) =>
        let text := conditional head first.text second.text
        return (← closedAt source text second.stop, memory)
    else return (← closedAt source (conditional head first.text []) first.stop, memory)

def readConstructAt (inside : OffsetReader) : OffsetReader := fun start memory => do
  match ← headAt source (start + 1) with
  | none => return (none, memory)
  | some (head, pos) =>
    if ← comesAt source ['['] pos then branchesAt source inside head (pos + 1) memory
    else if !(← comesAt source ['\x7d'] pos) || head.check.isSome then return (none, memory)
    else return (some ⟨pos + 1, '\x7b' :: (head.operand ++ ['\x7d'])⟩, memory)

def constructAt (depth : Nat) : OffsetReader := fun start memory => do
  match memory.known.lookup start with
  | some found => return (found, memory)
  | none =>
    if maxDepth < depth then
      return (none, (memory.tell (.constructTooDeep start)).learn start none)
    else
      let (found, memory) ← readConstructAt source (constructAt (depth + 1)) start memory
      let found := found.filter (isReadable ·.text)
      return (found, memory.learn start found)
termination_by maxDepth + 1 - depth

end Programs

def textFrom (source : List Char) (offset : Nat) : List Char :=
  source.drop (cut offset source).length

/-- What was found at the beginning of a text, by offset, when `out` has been converted before. -/
def Converted.located (source out cs : List Char) (found : Converted) : Found :=
  ⟨offsetOf source (cs.drop found.length), out ++ found.text⟩

/-- What is known about braces, by offsets alone. -/
def Notes.located (source : List Char) (notes : Notes) : Memory :=
  ⟨notes.known.map fun (brace, found) =>
    (brace, found.map (·.located source [] (textFrom source (brace + 1)))), notes.events⟩

/-- A result that was found in a text, by offsets alone, when `out` has been converted before. -/
def foundIn (source out cs : List Char) (result : Option Converted × Notes) :
    Option Found × Memory :=
  (result.1.map (·.located source out cs), result.2.located source)

/-- A reader at offsets finds what a reader over characters finds at a brace. -/
def Mirrors (source : List Char) (inside : Reader) (reader : OffsetReader) : Prop :=
  ∀ ⦃offset : Nat⦄ ⦃cs : List Char⦄ (notes : Notes), Place source offset ('\x7b' :: cs) →
    reader offset (notes.located source) = pure (foundIn source [] cs (inside offset cs notes))

variable {source : List Char} {offset : Nat} {cs : List Char}

theorem textFrom_place (place : Place source offset cs) : textFrom source offset = cs := by
  obtain ⟨before, rfl, rfl⟩ := place
  rw [textFrom, cut_byteSize, List.drop_left]

theorem foundIn_prepend (out : List Char) (taken : Nat) (text : List Char)
    (result : Option Converted × Notes) :
    foundIn source out cs (Converted.prepend taken text result) =
      foundIn source (out ++ text) (cs.drop taken) result := by
  obtain ⟨found | c, notes⟩ := result
  · rfl
  · simp only [foundIn, Converted.prepend, Option.map_some, Converted.located, List.drop_drop,
      List.append_assoc]

theorem lookup_located (notes : Notes) (place : Place source offset ('\x7b' :: cs)) :
    (notes.located source).known.lookup offset =
      (notes.known.lookup offset).map fun found => found.map (·.located source [] cs) := by
  rw [Notes.located]
  dsimp only
  induction notes.known with
  | nil => rfl
  | cons entry known ih =>
    obtain ⟨brace, found⟩ := entry
    rw [List.map_cons, List.lookup_cons, List.lookup_cons, ih]
    cases same : offset == brace with
    | false => rfl
    | true =>
      obtain rfl := beq_iff_eq.1 same
      rw [textFrom_place (place_brace place)]
      rfl

theorem learn_located (notes : Notes) (place : Place source offset ('\x7b' :: cs))
    (found : Option Converted) :
    (notes.learn offset found).located source =
      (notes.located source).learn offset (found.map (·.located source [] cs)) := by
  rw [Notes.located, Notes.learn, List.map_cons]
  dsimp only
  rw [textFrom_place (place_brace place)]
  rfl

/-! Branches. -/

variable {inside : Reader} {reader : OffsetReader}

theorem branchTurns_eq (same : Mirrors source inside reader) {quote : Char}
    (opens : isQuote quote = true) (place : Place source offset cs) (out : List Char)
    (notes : Notes) :
    repeatM (branchTurn source reader quote) (offset, out, notes.located source) =
      pure (foundIn source out cs (branchFrom inside quote offset cs notes)) := by
  fun_induction branchFrom inside quote offset cs notes generalizing out with
  | case1 offset notes =>
    refine repeat_ends ?_
    rw [branchTurn, behind_place place, pure_bind]
    rfl
  | case2 offset notes c rest special ih =>
    have next : Place source (offset + 1) (c :: rest) := place_cons place
    have turn : branchTurn source reader quote (offset, out, notes.located source) =
        pure (.inl (offset + 1 + c.utf8Size, out ++ [c], notes.located source)) := by
      rw [branchTurn, behind_place place, pure_bind]
      dsimp only
      rw [if_pos rfl, behind_place next, pure_bind, List.head?_cons,
        Option.filter_some, if_pos (decide_eq_true special)]
    rw [foundIn_prepend]
    exact (repeat_again turn).trans (ih (place_cons next) (out ++ [c]))
  | case3 offset notes c rest plain ih =>
    have next : Place source (offset + 1) (c :: rest) := place_cons place
    have turn : branchTurn source reader quote (offset, out, notes.located source) =
        pure (.inl (offset + 1, out ++ ['\\'], notes.located source)) := by
      rw [branchTurn, behind_place place, pure_bind]
      dsimp only
      rw [if_pos rfl, behind_place next, pure_bind, List.head?_cons,
        Option.filter_some, if_neg (by simpa using plain)]
    rw [foundIn_prepend]
    exact (repeat_again turn).trans (ih next (out ++ ['\\']))
  | case4 offset notes rest found after read start ih =>
    have behindFound := place_drop place found.length
    have turn : branchTurn source reader quote (offset, out, notes.located source) =
        pure (.inl (start, out ++ found.text, after.located source)) := by
      rw [branchTurn, behind_place place, pure_bind]
      dsimp only
      rw [if_neg (by decide), if_pos rfl, same notes place, read, pure_bind]
      dsimp only [foundIn, Option.map_some, Converted.located]
      rw [place_offset behindFound]
      rfl
    rw [foundIn_prepend, Nat.add_comm 1, List.drop_succ_cons]
    exact (repeat_again turn).trans (ih behindFound (out ++ found.text))
  | case5 offset notes rest after read ih =>
    have turn : branchTurn source reader quote (offset, out, notes.located source) =
        pure (.inl (offset + 1, out ++ ['\x7b', '\x7b'], after.located source)) := by
      rw [branchTurn, behind_place place, pure_bind]
      dsimp only
      rw [if_neg (by decide), if_pos rfl, same notes place, read, pure_bind]
      rfl
    rw [foundIn_prepend]
    exact (repeat_again turn).trans (ih (place_brace place) (out ++ ['\x7b', '\x7b']))
  | case6 offset notes rest escape brace =>
    have noEscape : quote ≠ '\\' := by rcases quote_cases opens with rfl | rfl <;> decide
    have turn : branchTurn source reader quote (offset, out, notes.located source) =
        pure (.inr (some ⟨offset + 1, out⟩, notes.located source)) := by
      rw [branchTurn, behind_place place, pure_bind]
      dsimp only
      rw [if_neg noEscape, if_neg brace, if_pos rfl]
    rw [repeat_ends turn, foundIn, Option.map_some, Converted.located, List.drop_succ_cons,
      List.drop_zero, List.append_nil, place_offset (place_quote opens place)]
  | case7 offset notes c rest escape brace other ih =>
    have next := place_cons place
    have turn : branchTurn source reader quote (offset, out, notes.located source) =
        pure (.inl (offset + c.utf8Size, out ++ [c], notes.located source)) := by
      rw [branchTurn, behind_place place, pure_bind]
      dsimp only
      by_cases backslash : c = '\\'
      · -- Nothing comes after the backslash.
        subst backslash
        cases rest with
        | cons d rest => exact absurd rfl (escape d rest rfl)
        | nil =>
          have last : behind source (offset + 1) = pure [] := behind_place next
          rw [if_pos rfl, last, pure_bind]
          rfl
      · rw [if_neg backslash, if_neg brace, if_neg other]
    rw [foundIn_prepend]
    exact (repeat_again turn).trans (ih next (out ++ [c]))

theorem branchAt_eq (same : Mirrors source inside reader) (place : Place source offset cs)
    (notes : Notes) :
    branchAt source reader offset (notes.located source) =
      pure (foundIn source [] cs (branch inside offset cs notes)) := by
  rw [branchAt, behind_place place, pure_bind]
  cases cs with
  | nil => rfl
  | cons quote rest =>
    rw [List.head?_cons, Option.filter_some, branch]
    cases opens : isQuote quote with
    | false => rfl
    | true =>
      rw [if_pos rfl, if_pos rfl, foundIn_prepend]
      exact branchTurns_eq same opens (place_quote opens place) [] notes

/-! Constructs. -/

theorem foundIn_some {rest : List Char} (ends : rest <:+ cs) (text : List Char) (notes : Notes) :
    foundIn source [] cs (some ⟨cs.length - rest.length, text⟩, notes) =
      (some ⟨offsetOf source rest, text⟩, notes.located source) := by
  rw [foundIn, Option.map_some, Converted.located, ← List.suffix_iff_eq_drop.1 ends]
  rfl

/-- A construct that has been read up to what is left of the text behind its brace. -/
def closed (cs left text : List Char) (notes : Notes) : Option Converted × Notes :=
  match left with
  | ']' :: '\x7d' :: rest => (some ⟨cs.length - rest.length, text⟩, notes)
  | _ => (none, notes)

theorem closedAt_eq {left : List Char} (place : Place source offset left) (ends : left <:+ cs)
    (text : List Char) (notes : Notes) :
    (do return (← closedAt source text offset, notes.located source)) =
      (pure (foundIn source [] cs (closed cs left text notes)) : Sliced _) := by
  rw [closedAt, comesAt_place place, pure_bind, isPrefixOf_singleton]
  cases left with
  | nil => rfl
  | cons c left =>
    by_cases bracket : c = ']'
    · subst bracket
      have next : Place source (offset + 1) left := place_cons place
      rw [List.head?_cons, beq_self_eq_true, Bool.not_true, if_neg Bool.false_ne_true,
        comesAt_place next, pure_bind, isPrefixOf_singleton]
      cases left with
      | nil => rfl
      | cons d left =>
        by_cases brace : d = '\x7d'
        · subst brace
          have last : Place source (offset + 1 + 1) left := place_cons next
          have within : left <:+ cs :=
            (List.suffix_cons '\x7d' left).trans
              ((List.suffix_cons ']' ('\x7d' :: left)).trans ends)
          rw [closed, foundIn_some within, place_offset last]
          rfl
        · simp [closed, brace, foundIn]
    · simp [closed, bracket, foundIn]

section Branches
variable {rest : List Char} {head : Head} {first : Converted} {notes between : Notes}

theorem readConstruct_one (read : Head.read cs = some (head, '[' :: rest))
    (whenTrue : branch inside (offset + 1 + byteSize (cs.take (cs.length - rest.length))) rest
      notes = (some first, between))
    (one : ['|', '|'].isPrefixOf (rest.drop first.length) = false) :
    readConstruct inside offset cs notes =
      closed cs (rest.drop first.length) (conditional head first.text []) between := by
  simp only [readConstruct, read, whenTrue, closed]
  split
  · rename_i tail ends
    rw [ends]
    rfl
  · rename_i more bars
    rw [bars] at one
    cases one
  · rename_i noEnd _
    split
    · rename_i tail ends
      exact absurd ends (noEnd tail)
    · rfl

theorem readConstruct_two {more : List Char} (read : Head.read cs = some (head, '[' :: rest))
    (whenTrue : branch inside (offset + 1 + byteSize (cs.take (cs.length - rest.length))) rest
      notes = (some first, between))
    (bars : rest.drop first.length = '|' :: '|' :: more) :
    readConstruct inside offset cs notes =
      match branch inside (offset + 1 + byteSize (cs.take (cs.length - more.length))) more between
      with
      | (none, after) => (none, after)
      | (some second, after) =>
        closed cs (more.drop second.length) (conditional head first.text second.text) after := by
  simp only [readConstruct, read, whenTrue, bars]
  rcases branch inside (offset + 1 + byteSize (cs.take (cs.length - more.length))) more between
    with ⟨none | other, after⟩ <;> rfl

end Branches

theorem branchesAt_eq (same : Mirrors source inside reader) {rest : List Char} {head : Head}
    (place : Place source (offset + 1) cs) (read : Head.read cs = some (head, '[' :: rest))
    (notes : Notes) :
    branchesAt source reader head (offset + 1 + byteSize (cs.take (cs.length - rest.length)))
        (notes.located source) =
      pure (foundIn source [] cs (readConstruct inside offset cs notes)) := by
  have within : rest <:+ cs := (List.suffix_cons '[' rest).trans (head_suffix read)
  have whole := place_ends place
  rw [branchesAt, branchAt_eq same (place_first place read), pure_bind]
  rcases whenTrue : branch inside (offset + 1 + byteSize (cs.take (cs.length - rest.length)))
    rest notes with ⟨none | first, between⟩
  · simp only [readConstruct, read, whenTrue]
    rfl
  have left := (List.drop_suffix first.length rest).trans within
  have seam := place_of_ends (left.trans whole)
  dsimp only [foundIn, Option.map_some, Converted.located, List.nil_append]
  rw [comesAt_place seam, pure_bind]
  cases two : ['|', '|'].isPrefixOf (rest.drop first.length) with
  | false =>
    rw [if_neg Bool.false_ne_true, readConstruct_one read whenTrue two]
    exact closedAt_eq seam left _ between
  | true =>
    obtain ⟨more, bars⟩ := List.isPrefixOf_iff_prefix.1 two
    have bars : rest.drop first.length = '|' :: '|' :: more := bars.symm
    have second := place_second place read bars
    rw [bars] at left seam
    have start : offsetOf source (rest.drop first.length) + 2 =
        offset + 1 + byteSize (cs.take (cs.length - more.length)) := by
      have next : Place source (offsetOf source ('|' :: '|' :: more) + 1 + 1) more :=
        place_cons (place_cons seam)
      rw [← place_offset second, bars, place_offset next]
    rw [if_pos rfl, start, branchAt_eq same second, pure_bind,
      readConstruct_two read whenTrue bars]
    rcases branch inside (offset + 1 + byteSize (cs.take (cs.length - more.length))) more between
      with ⟨none | other, after⟩
    · rfl
    have last : more.drop other.length <:+ cs := (List.drop_suffix other.length more).trans
      ((List.suffix_cons '|' more).trans ((List.suffix_cons '|' ('|' :: more)).trans left))
    exact closedAt_eq (place_of_ends (last.trans whole)) last _ after

theorem readConstructAt_eq (same : Mirrors source inside reader)
    (place : Place source offset ('\x7b' :: cs)) (notes : Notes) :
    readConstructAt source reader offset (notes.located source) =
      pure (foundIn source [] cs (readConstruct inside offset cs notes)) := by
  have inner := place_brace place
  have whole := place_ends inner
  rw [readConstructAt, ← place_offset inner, headAt_eq whole, pure_bind, located]
  cases read : Head.read cs with
  | none =>
    simp only [readConstruct, read]
    rfl
  | some found =>
    obtain ⟨head, rest⟩ := found
    have ends := head_suffix read
    have here := place_of_ends (ends.trans whole)
    dsimp only [Option.map_some]
    rw [comesAt_place here, pure_bind, isPrefixOf_singleton]
    by_cases opens : ∃ branches, rest = '[' :: branches
    · obtain ⟨branches, rfl⟩ := opens
      have start : offsetOf source ('[' :: branches) + 1 =
          offset + 1 + byteSize (cs.take (cs.length - branches.length)) := by
        have next : Place source (offsetOf source ('[' :: branches) + 1) branches :=
          place_cons here
        rw [← place_offset next, place_offset (place_first inner read)]
      rw [List.head?_cons, beq_self_eq_true, if_pos rfl, start]
      exact branchesAt_eq same inner read notes
    · have noBranches : (rest.head? == some '[') = false := by
        refine beq_false_of_ne fun begins => opens ?_
        exact List.head?_eq_some_iff.1 begins
      rw [noBranches, if_neg Bool.false_ne_true, comesAt_place here, pure_bind,
        isPrefixOf_singleton]
      by_cases closes : ∃ tail, rest = '\x7d' :: tail
      · obtain ⟨tail, rfl⟩ := closes
        have next : Place source (offsetOf source ('\x7d' :: tail) + 1) tail := place_cons here
        simp only [readConstruct, read, List.head?_cons, beq_self_eq_true, Bool.not_true,
          Bool.false_or]
        split
        · rfl
        · rw [foundIn_some ((List.suffix_cons '\x7d' tail).trans ends), place_offset next]
      · have noClose : (rest.head? == some '\x7d') = false := by
          refine beq_false_of_ne fun begins => closes ?_
          exact List.head?_eq_some_iff.1 begins
        rw [noClose, Bool.not_false, Bool.true_or, if_pos rfl]
        simp only [readConstruct]
        split
        · rename_i same
          rw [read] at same
          obtain ⟨-, shape⟩ := Prod.mk.inj (Option.some.inj same)
          exact absurd ⟨_, shape⟩ closes
        · rename_i same
          rw [read] at same
          obtain ⟨-, shape⟩ := Prod.mk.inj (Option.some.inj same)
          exact absurd ⟨_, shape⟩ opens
        · rfl

theorem constructAt_mirrors (depth : Nat) :
    Mirrors source (construct depth) (constructAt source depth) := by
  induction depth using depth_induction with
  | step depth ih =>
  intro offset cs notes place
  rw [constructAt, lookup_located notes place]
  cases known : notes.known.lookup offset with
  | some found =>
    rw [construct_known depth cs known]
    rfl
  | none =>
    rw [Option.map_none]
    dsimp only
    split
    · rename_i deep
      rw [construct_deep cs known deep, foundIn, learn_located _ place]
      rfl
    · rename_i shallow
      rw [construct_read cs known shallow, readConstructAt_eq (ih shallow) place, pure_bind]
      dsimp only [foundIn]
      rw [learn_located _ place]
      rcases readConstruct (construct (depth + 1)) offset cs notes with ⟨none | found, after⟩
      · rfl
      · dsimp only [Option.map_some, Converted.located, List.nil_append]
        rw [Option.filter_some, Option.filter_some]
        split <;> rfl

end TitleTemplate.Legacy
