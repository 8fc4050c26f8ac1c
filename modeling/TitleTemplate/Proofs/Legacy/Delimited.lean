import TitleTemplate.Proofs.Legacy.Walking

/-!
Heads before the end of a branch. In a text without quotes nothing of a head without a check goes
past the quote that ends the branch: what a bare argument takes beyond it is not closed there. So
such a head is read as it is when the text is all there is.
-/
namespace TitleTemplate.Legacy

theorem while_append {p : Char → Bool} {cs tail : List Char}
    (stops : (∃ d ∈ cs, p d = false) ∨ ∀ d ∈ tail.head?, p d = false) :
    (cs ++ tail).takeWhile p = cs.takeWhile p ∧
      (cs ++ tail).dropWhile p = cs.dropWhile p ++ tail := by
  induction cs with
  | nil =>
    rcases stops with ⟨d, member, _⟩ | ends
    · cases member
    · cases tail with
      | nil => exact ⟨rfl, rfl⟩
      | cons d tail => simp [ends d rfl]
  | cons c cs ih =>
    cases holds : p c with
    | false => simp [holds]
    | true =>
      have later : (∃ d ∈ cs, p d = false) ∨ ∀ d ∈ tail.head?, p d = false := by
        refine stops.imp_left ?_
        rintro ⟨d, member, fails⟩
        rcases List.mem_cons.1 member with rfl | member
        · rw [holds] at fails
          cases fails
        · exact ⟨d, member, fails⟩
      simpa [holds] using ih later

theorem while_ended {p : Char → Bool} (stops : p '"' = false) (cs : List Char) :
    (cs ++ branchEnd).takeWhile p = cs.takeWhile p ∧
      (cs ++ branchEnd).dropWhile p = cs.dropWhile p ++ branchEnd :=
  while_append (.inr fun _ first => Option.some.inj first ▸ stops)

theorem skipBlanks_ended (cs : List Char) :
    skipBlanks (cs ++ branchEnd) = skipBlanks cs ++ branchEnd :=
  (while_ended (by decide) cs).2

def Unquoted (cs : List Char) : Prop := ∀ c ∈ cs, isQuote c = false

theorem unquoted_suffix {cs ds : List Char} (unquoted : Unquoted cs) (suffix : ds <:+ cs) :
    Unquoted ds := fun c member => unquoted c (suffix.subset member)

theorem bareText_append {ends : Char → Bool} {cs : List Char} (stops : ∃ d ∈ cs, ends d = true)
    (tail : List Char) :
    bareText ends (cs ++ tail) = (bareText ends cs).map fun r => (r.1, r.2 ++ tail) := by
  obtain ⟨d, member, isEnd⟩ := stops
  obtain ⟨taken, left⟩ : (cs ++ tail).takeWhile (!ends ·) = cs.takeWhile (!ends ·) ∧
      (cs ++ tail).dropWhile (!ends ·) = cs.dropWhile (!ends ·) ++ tail :=
    while_append (.inl ⟨d, member, by simp [isEnd]⟩)
  have some : cs.dropWhile (!ends ·) ≠ [] := by
    intro none
    have all := List.dropWhile_eq_nil_iff.1 none d member
    simp [isEnd] at all
  have first : (cs.dropWhile (!ends ·) ++ tail).head? = (cs.dropWhile (!ends ·)).head? := by
    cases rest : cs.dropWhile (!ends ·) with
    | nil => exact absurd rest some
    | cons c cs => rfl
  simp only [bareText, taken, left, first]
  split <;> rfl

theorem bareText_unended {ends : Char → Bool} {cs : List Char} (none : ∀ d ∈ cs, ends d = false)
    {text rest : List Char} (read : bareText ends cs = some (text, rest)) : rest = [] := by
  have nothing : cs.dropWhile (!ends ·) = [] :=
    List.dropWhile_eq_nil_iff.2 fun d member => by simp [none d member]
  simp only [bareText, nothing] at read
  split at read
  · cases read
  · exact (Prod.mk.inj (Option.some.inj read)).2.symm

def endsArgument (c : Char) : Bool := c ∈ [',', ')', '\x7b']

theorem readArgument_bare {c : Char} (noQuote : isQuote c = false) (after : List Char) :
    readArgument (c :: after) =
      (bareText endsArgument (c :: after)).map fun r => (.bare r.1, r.2) := by
  rw [readArgument, if_neg (by rw [noQuote]; exact Bool.false_ne_true)]
  rfl

theorem arguments_unended {c : Char} {after : List Char} (noQuote : isQuote c = false)
    (all : ∀ d ∈ c :: after, endsArgument d = false) :
    ((readArgument (c :: after)).bind fun r => argumentsAfter r.1 r.2) = none := by
  rw [readArgument_bare noQuote]
  cases bare : bareText endsArgument (c :: after) with
  | none => rfl
  | some r =>
    obtain ⟨text, rest⟩ := r
    obtain rfl := bareText_unended all bare
    rfl

theorem argumentsAfter_ended (a : Argument) {rest : List Char}
    (inner : ∀ more, ',' :: more <:+ rest → readArgumentsFrom (more ++ branchEnd) =
      (readArgumentsFrom more).map fun r => (r.1, r.2 ++ branchEnd)) :
    argumentsAfter a (rest ++ branchEnd) =
      (argumentsAfter a rest).map fun r => (r.1, r.2 ++ branchEnd) := by
  have within := skipBlanks_suffix rest
  rw [argumentsAfter, argumentsAfter, skipBlanks_ended]
  cases next : skipBlanks rest with
  | nil => rfl
  | cons d more =>
    by_cases comma : d = ','
    · subst comma
      simp only [List.cons_append, inner more (next ▸ within), Option.map_map]
      rfl
    by_cases paren : d = ')'
    · subst paren
      rfl
    · simp [comma, paren]

theorem readArgumentsFrom_ended {cs : List Char} (unquoted : Unquoted cs) :
    readArgumentsFrom (cs ++ branchEnd) =
      (readArgumentsFrom cs).map fun r => (r.1, r.2 ++ branchEnd) := by
  induction size : cs.length using Nat.strongRecOn generalizing cs with
  | ind n ih =>
    have within := skipBlanks_suffix cs
    rw [readArgumentsFrom_eq (cs ++ branchEnd), readArgumentsFrom_eq cs, skipBlanks_ended]
    cases first : skipBlanks cs with
    | nil => rfl
    | cons c after =>
      rw [first] at within
      have noQuote := unquoted c (within.subset List.mem_cons_self)
      by_cases stops : ∃ d ∈ c :: after, endsArgument d = true
      · rw [List.cons_append, readArgument_bare noQuote, readArgument_bare noQuote,
          ← List.cons_append, bareText_append stops]
        cases bare : bareText endsArgument (c :: after) with
        | none => rfl
        | some r =>
          refine argumentsAfter_ended _ fun more next => ?_
          have left := next.trans ((bareText_suffix bare).trans within)
          have shorter : more.length < n := size ▸ left.length_le
          exact ih _ shorter (unquoted_suffix unquoted ((List.suffix_cons ',' more).trans left)) rfl
      · -- Nothing ends the argument, neither here nor in the end of the branch.
        have all : ∀ d ∈ c :: after, endsArgument d = false := by simpa using stops
        have ended : branchEnd.all (!endsArgument ·) = true := by decide
        rw [arguments_unended noQuote all, List.cons_append, arguments_unended noQuote]
        · rfl
        · intro d member
          rw [← List.cons_append] at member
          rcases List.mem_append.1 member with inside | after
          · exact all d inside
          · simpa using List.all_eq_true.1 ended d after

theorem readArguments_ended {cs : List Char} (unquoted : Unquoted cs) :
    readArguments (cs ++ branchEnd) = (readArguments cs).map fun r => (r.1, r.2 ++ branchEnd) := by
  rw [readArguments, readArguments, skipBlanks_ended]
  cases first : skipBlanks cs with
  | nil => exact readArgumentsFrom_ended unquoted
  | cons c after =>
    by_cases paren : c = ')'
    · subst paren
      rfl
    · simpa [paren] using readArgumentsFrom_ended unquoted

theorem readStep_ended {cs : List Char} (unquoted : Unquoted cs) :
    readStep (cs ++ branchEnd) = (readStep cs).map fun r => (r.1, r.2 ++ branchEnd) := by
  obtain ⟨name, left⟩ := while_ended (p := isStepChar) (by decide) cs
  simp only [readStep, name, left]
  cases rest : cs.dropWhile isStepChar with
  | nil => rfl
  | cons c after =>
    by_cases paren : c = '('
    · subst paren
      have within : '(' :: after <:+ cs := rest ▸ List.dropWhile_suffix isStepChar
      have inner : Unquoted after :=
        unquoted_suffix unquoted ((List.suffix_cons '(' after).trans within)
      simp only [List.cons_append, readArguments_ended inner, Option.map_map]
      rfl
    · simp [paren]

theorem operator_isSome (c : Char) (cs : List Char) :
    (operator? (c :: cs)).isSome =
      (c ∈ ['>', '<', '=', '~'] || (c = '!' && cs.head? = some '=')) := by
  unfold operator?
  split
  case h_9 noNe _ _ _ noEq noGt noLt noContains =>
    have different : c = '!' → cs.head? ≠ some '=' := by
      intro same next
      obtain ⟨rest, rfl⟩ := List.head?_eq_some_iff.1 next
      exact noNe rest (same ▸ rfl)
    simp_all
  all_goals simp_all

theorem operator_ended (cs : List Char) :
    (operator? (cs ++ branchEnd)).isSome = (operator? cs).isSome := by
  cases cs with
  | nil => rfl
  | cons c cs =>
    rw [List.cons_append, operator_isSome, operator_isSome]
    cases cs <;> rfl

def uncheckedSteps (cs : List Char) : Option (List Step × List Char) :=
  (readSteps cs).bind fun r => if r.2.1.isNone then some (r.1, r.2.2) else none

theorem uncheckedSteps_other {cs : List Char} (other : ∀ more, cs ≠ ':' :: ':' :: more) :
    uncheckedSteps cs = some ([], cs) := by
  rw [uncheckedSteps, readSteps]
  · rfl
  · exact other

theorem closing_checked (check : Check) (rest : List Char) :
    ((closing check rest).bind fun r => if r.2.1.isNone then some (r.1, r.2.2) else none) =
      none := by
  unfold closing
  split <;> rfl

theorem uncheckedSteps_colons (cs : List Char) :
    uncheckedSteps (':' :: ':' :: cs) =
      if (operator? cs).isSome ∨ cs.takeWhile isStepChar = [] ∨
          (check? (cs.takeWhile isStepChar)).isSome then none
      else (readStep cs).bind fun r => (uncheckedSteps r.2).map fun s => (r.1 :: s.1, s.2) := by
  rw [uncheckedSteps, readSteps]
  split
  · rename_i op rest found
    rw [if_pos (by simp [found])]
    cases comparedText rest with
    | none => rfl
    | some r => exact closing_checked _ _
  · rename_i found
    dsimp only
    split
    · rename_i none
      rw [if_pos (by simp [none])]
      rfl
    · rename_i some
      split
      · rename_i check known
        rw [if_pos (by simp [known]), closing_checked]
      · rename_i unknown
        rw [if_neg (by simp [found, some, unknown])]
        split
        · rename_i unread
          rw [unread]
          rfl
        · rename_i s rest read
          rw [read, Option.bind_some, uncheckedSteps]
          cases readSteps rest with
          | none => rfl
          | some r =>
            obtain ⟨ss, check, tail⟩ := r
            cases check <;> rfl

theorem uncheckedSteps_ended {cs : List Char} (unquoted : Unquoted cs) :
    uncheckedSteps (cs ++ branchEnd) =
      (uncheckedSteps cs).map fun r => (r.1, r.2 ++ branchEnd) := by
  induction size : cs.length using Nat.strongRecOn generalizing cs with
  | ind n ih =>
    by_cases colons : ∃ more, cs = ':' :: ':' :: more
    · obtain ⟨more, rfl⟩ := colons
      have inner : Unquoted more := unquoted_suffix unquoted (colons_suffix more)
      obtain ⟨name, -⟩ := while_ended (p := isStepChar) (by decide) more
      rw [List.cons_append, List.cons_append, uncheckedSteps_colons, uncheckedSteps_colons, name,
        operator_ended, readStep_ended inner]
      split
      · rfl
      · cases read : readStep more with
        | none => rfl
        | some r =>
          obtain ⟨s, rest⟩ := r
          have left := readStep_suffix read
          have shorter : rest.length < n := by
            have le := left.length_le
            rw [List.length_cons, List.length_cons] at size
            omega
          rw [Option.map_some, Option.bind_some, Option.bind_some,
            ih _ shorter (unquoted_suffix inner left) rfl, Option.map_map, Option.map_map]
          rfl
    · have other : ∀ more, cs ≠ ':' :: ':' :: more := fun more same => colons ⟨more, same⟩
      rw [uncheckedSteps_other other, uncheckedSteps_other]
      · rfl
      · intro more same
        rcases cs with _ | ⟨c, _ | ⟨d, cs⟩⟩
        · cases same
        · cases same
        · obtain ⟨rfl, next⟩ := List.cons.inj same
          obtain ⟨rfl, _⟩ := List.cons.inj next
          exact other cs rfl

def uncheckedHead (cs : List Char) : Option (Head × List Char) :=
  (Head.read cs).filter fun r => r.1.check.isNone

theorem uncheckedHead_eq (cs : List Char) :
    uncheckedHead cs =
      if (splitAtChar '.' (cs.takeWhile isPathChar)).all isSegment then
        (uncheckedSteps (cs.dropWhile isPathChar)).map fun r =>
          (⟨cs.takeWhile isPathChar, r.1, none⟩, r.2)
      else none := by
  rw [uncheckedHead, head_read_eq]
  split
  · rw [uncheckedSteps]
    cases readSteps (cs.dropWhile isPathChar) with
    | none => rfl
    | some r =>
      obtain ⟨ss, check, rest⟩ := r
      cases check <;> rfl
  · rfl

theorem uncheckedHead_ended {cs : List Char} (unquoted : Unquoted cs) :
    uncheckedHead (cs ++ branchEnd) = (uncheckedHead cs).map fun r => (r.1, r.2 ++ branchEnd) := by
  obtain ⟨path, left⟩ := while_ended (p := isPathChar) (by decide) cs
  have inner := unquoted_suffix unquoted (List.dropWhile_suffix isPathChar)
  rw [uncheckedHead_eq, uncheckedHead_eq, path, left]
  split
  · rw [uncheckedSteps_ended inner, Option.map_map, Option.map_map]
    rfl
  · rfl

end TitleTemplate.Legacy
