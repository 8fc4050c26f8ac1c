import TitleTemplate.Proofs.Legacy.Readers

/-!
What may be found where a construct begins. How deep a construct stands and what has been learned
before decide no more than which of the constructs inside are refused, so the findings are described
here with any of them refused. Two findings at one place are the same, or else they part: whatever
is written after each of them, the texts are different.
-/
namespace TitleTemplate.Legacy

/-- What may be found in the rest of a branch after its opening quote, and for a construct after
its brace, which has no quote. -/
inductive MayFind : Option Char → List Char → Converted → Prop
  | finish {quote : Char} {rest : List Char} (opens : isQuote quote = true) :
      MayFind (some quote) (quote :: rest) ⟨1, []⟩
  | escaped {quote c : Char} {rest : List Char} {found : Converted}
      (special : c = quote ∨ c = '\\') (later : MayFind (some quote) rest found) :
      MayFind (some quote) ('\\' :: c :: rest) ⟨2 + found.length, c :: found.text⟩
  | char {quote c : Char} {rest : List Char} {found : Converted} (other : c ≠ quote)
      (notOpen : c ≠ '\x7b')
      (plain : ∀ d tail, c = '\\' → rest = d :: tail → ¬ (d = quote ∨ d = '\\'))
      (later : MayFind (some quote) rest found) :
      MayFind (some quote) (c :: rest) ⟨1 + found.length, c :: found.text⟩
  | refused {quote : Char} {rest : List Char} {found : Converted}
      (later : MayFind (some quote) rest found) :
      MayFind (some quote) ('\x7b' :: rest) ⟨1 + found.length, '\x7b' :: '\x7b' :: found.text⟩
  | inside {quote : Char} {rest : List Char} {inner found : Converted}
      (here : MayFind none rest inner)
      (later : MayFind (some quote) (rest.drop inner.length) found) :
      MayFind (some quote) ('\x7b' :: rest)
        ⟨1 + inner.length + found.length, inner.text ++ found.text⟩
  | output {cs rest : List Char} {head : Head}
      (read : Head.read cs = some (head, '\x7d' :: rest)) :
      MayFind none cs ⟨cs.length - rest.length, braced head.operand⟩
  | single {cs rest tail : List Char} {head : Head} {quote : Char} {first : Converted}
      (read : Head.read cs = some (head, '[' :: quote :: rest))
      (whenTrue : MayFind (some quote) rest first)
      (ends : rest.drop first.length = ']' :: '\x7d' :: tail) :
      MayFind none cs ⟨cs.length - tail.length, conditional head first.text []⟩
  | double {cs rest more tail : List Char} {head : Head} {quote other : Char}
      {first second : Converted}
      (read : Head.read cs = some (head, '[' :: quote :: rest))
      (whenTrue : MayFind (some quote) rest first)
      (bars : rest.drop first.length = '|' :: '|' :: other :: more)
      (whenFalse : MayFind (some other) more second)
      (ends : more.drop second.length = ']' :: '\x7d' :: tail) :
      MayFind none cs ⟨cs.length - tail.length, conditional head first.text second.text⟩

variable {source : List Char} {holds : Notes → Prop} {inside : Reader}

theorem branchFrom_mayFind (meets : Meets source holds (fun _ => MayFind none) inside)
    {quote : Char} (opens : isQuote quote = true) {offset : Nat} {cs : List Char} {notes : Notes}
    (place : Place source offset cs) (before : holds notes) {found : Converted}
    (result : (branchFrom inside quote offset cs notes).1 = some found) :
    MayFind (some quote) cs found := by
  fun_induction branchFrom inside quote offset cs notes generalizing found with
  | case1 => cases result
  | case2 offset notes c rest special ih =>
    obtain ⟨later, shorter, rfl⟩ := Option.map_eq_some_iff.1 result
    exact .escaped special (ih (place_cons (place_cons place)) before shorter)
  | case3 offset notes c rest plain ih =>
    obtain ⟨later, shorter, rfl⟩ := Option.map_eq_some_iff.1 result
    have other : '\\' ≠ quote := by
      rintro rfl
      exact absurd opens (by decide)
    refine .char other (by decide) ?_ (ih (place_cons place) before shorter)
    intro d tail _ same
    obtain ⟨rfl, _⟩ := List.cons.inj same
    exact plain
  | case4 offset notes rest inner after read start ih =>
    have kept := meets.keeps place before
    have here := meets.finds place before (congrArg Prod.fst read)
    rw [read] at kept
    obtain ⟨later, shorter, rfl⟩ := Option.map_eq_some_iff.1 result
    exact .inside here (ih (place_drop place inner.length) kept shorter)
  | case5 offset notes rest after read ih =>
    have kept := meets.keeps place before
    rw [read] at kept
    obtain ⟨later, shorter, rfl⟩ := Option.map_eq_some_iff.1 result
    exact .refused (ih (place_cons place) kept shorter)
  | case6 =>
    obtain rfl := Option.some.inj result
    exact .finish opens
  | case7 offset notes c rest escape notOpen other ih =>
    obtain ⟨later, shorter, rfl⟩ := Option.map_eq_some_iff.1 result
    refine .char other notOpen ?_ (ih (place_cons place) before shorter)
    intro d tail backslash same
    exact (escape d tail backslash same).elim

theorem branch_mayFind (meets : Meets source holds (fun _ => MayFind none) inside) {offset : Nat}
    {cs : List Char} {notes : Notes} (place : Place source offset cs) (before : holds notes)
    {found : Converted} (result : (branch inside offset cs notes).1 = some found) :
    ∃ quote rest later, cs = quote :: rest ∧ MayFind (some quote) rest later ∧
      found = ⟨1 + later.length, later.text⟩ := by
  cases cs with
  | nil => cases result
  | cons quote rest =>
    rw [branch] at result
    split at result
    · rename_i opens
      obtain ⟨later, shorter, rfl⟩ := Option.map_eq_some_iff.1 result
      exact ⟨quote, rest, later, rfl,
        branchFrom_mayFind meets opens (place_quote opens place) before shorter, rfl⟩
    · cases result

theorem readConstruct_mayFind (meets : Meets source holds (fun _ => MayFind none) inside)
    {offset : Nat} {cs : List Char} {notes : Notes} (place : Place source (offset + 1) cs)
    (before : holds notes) {found : Converted}
    (result : (readConstruct inside offset cs notes).1 = some found) : MayFind none cs found := by
  cases readConstruct_rewrites result with
  | output read plain => exact .output read
  | single read whenTrue ends =>
    obtain ⟨quote, rest, first, rfl, taken, rfl⟩ :=
      branch_mayFind meets (place_first place read) before (congrArg Prod.fst whenTrue)
    rw [Nat.add_comm, List.drop_succ_cons] at ends
    have finds := MayFind.single read taken ends
    exact finds
  | double read whenTrue bars whenFalse ends =>
    have between := branch_keeps meets (place_first place read) before
    rw [whenTrue] at between
    obtain ⟨other, more, second, rfl, notTaken, rfl⟩ :=
      branch_mayFind meets (place_second place read bars) between (congrArg Prod.fst whenFalse)
    obtain ⟨quote, rest, first, rfl, taken, rfl⟩ :=
      branch_mayFind meets (place_first place read) before (congrArg Prod.fst whenTrue)
    rw [Nat.add_comm, List.drop_succ_cons] at bars ends
    have finds := MayFind.double read taken bars notTaken ends
    exact finds

theorem construct_mayFind (depth : Nat) :
    Meets source (Notes.Fitting (MayFind none) source) (fun _ => MayFind none) (construct depth) :=
  construct_meets_fit (fun meets place before result _ =>
    readConstruct_mayFind meets (place_brace place) before result) depth

/-- Texts that are different whatever is written after each. -/
def Apart (a b : List Char) : Prop := ∀ s t, a ++ s ≠ b ++ t

theorem apart_symm {a b : List Char} (apart : Apart a b) : Apart b a :=
  fun s t same => apart t s same.symm

theorem apart_append {a b : List Char} (apart : Apart a b) (s t : List Char) :
    Apart (a ++ s) (b ++ t) := by
  intro u v same
  rw [List.append_assoc, List.append_assoc] at same
  exact apart _ _ same

theorem apart_after {a b : List Char} (apart : Apart a b) (p : List Char) :
    Apart (p ++ a) (p ++ b) := by
  intro s t same
  rw [List.append_assoc, List.append_assoc] at same
  exact apart s t (List.append_cancel_left same)

theorem conditional_opening (head : Head) (a b : List Char) :
    ∃ text, conditional head a b = '\x7b' :: 'i' :: 'f' :: ' ' :: text := by
  unfold conditional
  exact ⟨_, rfl⟩

theorem mayFind_opening {cs : List Char} {found : Converted} (finds : MayFind none cs found) :
    ∃ c text, found.text = '\x7b' :: c :: text ∧ c ≠ '\x7b' := by
  cases finds with
  | @output _ rest head read =>
    obtain ⟨c, text, shape, word⟩ := head_operand (written_of_read read)
    refine ⟨c, text ++ ['\x7d'], ?_, not_open_of_word word⟩
    rw [braced, shape]
    rfl
  | @single _ _ _ head _ first =>
    obtain ⟨text, shape⟩ := conditional_opening head first.text []
    exact ⟨'i', _, shape, by decide⟩
  | @double _ _ _ _ head _ _ first second =>
    obtain ⟨text, shape⟩ := conditional_opening head first.text second.text
    exact ⟨'i', _, shape, by decide⟩

theorem apart_refused {cs : List Char} {found : Converted} (finds : MayFind none cs found)
    (s t : List Char) : Apart (found.text ++ s) ('\x7b' :: '\x7b' :: t) := by
  obtain ⟨c, text, shape, notOpen⟩ := mayFind_opening finds
  rw [shape]
  intro u v same
  exact notOpen (List.cons.inj (List.cons.inj same).2).1

theorem apart_conditional (head : Head) {a b : List Char} (apart : Apart a b) (s t : List Char) :
    Apart (conditional head a s) (conditional head b t) := by
  rw [conditional_eq, conditional_eq]
  exact apart_after (apart_append apart _ _) _

theorem apart_ne_nil {a b : List Char} (apart : Apart a b) : a ≠ [] ∧ b ≠ [] := by
  constructor
  · rintro rfl
    exact apart b [] (List.append_nil b).symm
  · rintro rfl
    exact apart [] a (List.append_nil a)

theorem apart_otherwise (head : Head) (text : List Char) {a b : List Char} (apart : Apart a b) :
    Apart (conditional head text a) (conditional head text b) := by
  obtain ⟨some, someToo⟩ := apart_ne_nil apart
  rw [conditional_eq, conditional_eq, if_neg some, if_neg someToo, List.append_assoc,
    List.append_assoc]
  exact apart_after (apart_after (apart_after (apart_append apart _ _) _) _) _

/-- The same, or apart: what is written is enough to tell which. -/
def Coherent (a b : Converted) : Prop := a = b ∨ Apart a.text b.text

theorem coherent_symm {a b : Converted} (coherent : Coherent a b) : Coherent b a := by
  rcases coherent with same | apart
  · exact Or.inl same.symm
  · exact Or.inr (apart_symm apart)

theorem coherent_after {a b : Converted} (coherent : Coherent a b) (taken : Nat)
    (text : List Char) :
    Coherent ⟨taken + a.length, text ++ a.text⟩ ⟨taken + b.length, text ++ b.text⟩ := by
  rcases coherent with rfl | apart
  · exact Or.inl rfl
  · exact Or.inr (apart_after apart text)

/-- Two findings at one place are the same or they part. -/
theorem mayFind_coherent {kind : Option Char} {cs : List Char} {a b : Converted}
    (first : MayFind kind cs a) (second : MayFind kind cs b) : Coherent a b := by
  induction first generalizing b with
  | finish opens =>
    cases second with
    | finish => exact Or.inl rfl
    | escaped => exact absurd opens (by decide)
    | char other => exact absurd rfl other
    | refused => exact absurd opens (by decide)
    | inside => exact absurd opens (by decide)
  | @escaped quote c rest found special later ih =>
    cases second with
    | finish opens => exact absurd opens (by decide)
    | escaped _ later => exact coherent_after (ih later) 2 [c]
    | char _ _ plain => exact absurd special (plain _ _ rfl rfl)
  | @char quote c rest found other notOpen plain later ih =>
    cases second with
    | finish => exact absurd rfl other
    | escaped special => exact absurd special (plain _ _ rfl rfl)
    | char _ _ _ later => exact coherent_after (ih later) 1 [c]
    | refused => exact absurd rfl notOpen
    | inside => exact absurd rfl notOpen
  | @refused quote rest found later ih =>
    cases second with
    | finish opens => exact absurd opens (by decide)
    | char _ notOpen => exact absurd rfl notOpen
    | refused later => exact coherent_after (ih later) 1 ['\x7b', '\x7b']
    -- What one refuses and the other finds differs in the second character already.
    | inside here => exact Or.inr (apart_symm (apart_refused here _ _))
  | @inside quote rest inner found here later ihHere ihLater =>
    cases second with
    | finish opens => exact absurd opens (by decide)
    | char _ notOpen => exact absurd rfl notOpen
    | refused => exact Or.inr (apart_refused here _ _)
    | inside otherHere otherLater =>
      rcases ihHere otherHere with rfl | apart
      · exact coherent_after (ihLater otherLater) (1 + inner.length) inner.text
      · exact Or.inr (apart_append apart _ _)
  | output read =>
    cases second with
    | output readToo =>
      cases read.symm.trans readToo
      exact Or.inl rfl
    | single readToo => cases read.symm.trans readToo
    | double readToo => cases read.symm.trans readToo
  | single read whenTrue ends ih =>
    cases second with
    | output readToo => cases read.symm.trans readToo
    | single readToo otherTrue otherEnds =>
      cases read.symm.trans readToo
      rcases ih otherTrue with rfl | apart
      · cases ends.symm.trans otherEnds
        exact Or.inl rfl
      · exact Or.inr (apart_conditional _ apart _ _)
    | double readToo otherTrue bars =>
      cases read.symm.trans readToo
      rcases ih otherTrue with rfl | apart
      · cases ends.symm.trans bars
      · exact Or.inr (apart_conditional _ apart _ _)
  | @double _ _ _ _ head _ _ taken notTaken read whenTrue bars whenFalse ends ihTrue ihFalse =>
    cases second with
    | output readToo => cases read.symm.trans readToo
    | single readToo otherTrue otherEnds =>
      cases read.symm.trans readToo
      rcases ihTrue otherTrue with rfl | apart
      · cases bars.symm.trans otherEnds
      · exact Or.inr (apart_conditional _ apart _ _)
    | double readToo otherTrue otherBars otherFalse otherEnds =>
      cases read.symm.trans readToo
      rcases ihTrue otherTrue with rfl | apart
      · cases bars.symm.trans otherBars
        rcases ihFalse otherFalse with rfl | apart
        · cases ends.symm.trans otherEnds
          exact Or.inl rfl
        · exact Or.inr (apart_otherwise head taken.text apart)
      · exact Or.inr (apart_conditional _ apart _ _)

end TitleTemplate.Legacy
