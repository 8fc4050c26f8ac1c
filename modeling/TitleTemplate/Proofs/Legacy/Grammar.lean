import TitleTemplate.Proofs.Legacy.Arguments
import TitleTemplate.Proofs.Legacy.Heads
import TitleTemplate.Proofs.Template.Operands

/-!
The grammar of heads:

  head     := path ('::' step)* ['::' check]
  step     := name ['(' arguments ')']
  check    := 'istrue' | 'exists' | 'isfalse' | operator (quoted | bare)
  operator := '!=' | '>=' | '<=' | '==' | '=' | '>' | '<' | '~'

where a path is made of segments with points between them, and a name is no check. There may be
white space around a bare text that a check compares with. The reader of heads takes what is such a
text, and it takes every such text whole where a branch begins or the construct ends.
-/
namespace TitleTemplate.Legacy

inductive NamesCheck : String → Check → Prop
  | istrue : NamesCheck "istrue" .truthy
  | exists : NamesCheck "exists" .truthy
  | isfalse : NamesCheck "isfalse" .falsy

structure IsStepName (name : List Char) : Prop where
  some : name ≠ []
  chars : ∀ c ∈ name, isStepChar c = true
  noCheck : ∀ check, ¬NamesCheck (String.ofList name) check

inductive WritesStep : List Char → Step → Prop
  | bare {name : List Char} (named : IsStepName name) : WritesStep name ⟨name, none⟩
  | applied {name inside : List Char} {as : List Argument} (named : IsStepName name)
      (arguments : WritesArguments inside as) :
      WritesStep (name ++ '(' :: (inside ++ [')'])) ⟨name, some as⟩

inductive WritesOperator : List Char → Comparison → Prop
  | ne : WritesOperator ['!', '='] .ne
  | gte : WritesOperator ['>', '='] .gte
  | lte : WritesOperator ['<', '='] .lte
  | doubled : WritesOperator ['=', '='] .eq
  | eq : WritesOperator ['='] .eq
  | gt : WritesOperator ['>'] .gt
  | lt : WritesOperator ['<'] .lt
  | contains : WritesOperator ['~'] .contains

inductive WritesCompared : List Char → List Char → Prop
  | quoted {written text : List Char} (quoted : WritesQuoted written text) :
      WritesCompared written text
  | bare {before text after : List Char} (blankBefore : AllBlank before)
      (bare : IsBare ['[', '\x7d', '\x7b'] text) (blankAfter : AllBlank after)
      (noQuote : NoQuote (before ++ text)) : WritesCompared (before ++ (text ++ after)) text

/-- What is written for steps and a check after them, each after two colons. An operator is as long
as can be. -/
inductive WritesSteps : List Char → List Step → Option Check → Prop
  | done : WritesSteps [] [] none
  | flag {name : String} {check : Check} (named : NamesCheck name check) :
      WritesSteps (':' :: ':' :: name.toList) [] (some check)
  | compare {symbol written text : List Char} {op : Comparison}
      (operator : WritesOperator symbol op) (compared : WritesCompared written text)
      (longest : ∀ c ∈ written.head?, ∀ other, ¬WritesOperator (symbol ++ [c]) other) :
      WritesSteps (':' :: ':' :: (symbol ++ written)) [] (some (.compare op text))
  | step {written rest : List Char} {s : Step} {ss : List Step} {check : Option Check}
      (first : WritesStep written s) (later : WritesSteps rest ss check) :
      WritesSteps (':' :: ':' :: (written ++ rest)) (s :: ss) check

inductive WritesHead : List Char → Head → Prop
  | mk {path rest : List Char} {segments : List String} {ss : List Step} {check : Option Check}
      (named : IsPath (String.ofList path) segments) (later : WritesSteps rest ss check) :
      WritesHead (path ++ rest) ⟨path, ss, check⟩

section
variable {cs text rest : List Char}

theorem check_iff {name : List Char} {check : Check} :
    check? name = some check ↔ NamesCheck (String.ofList name) check := by
  constructor
  · intro found
    unfold check? at found
    split_ifs at found with truthy falsy
    · obtain rfl := Option.some.inj found
      rcases truthy with rfl | rfl
      · exact .istrue
      · exact .exists
    · obtain rfl := Option.some.inj found
      rw [falsy]
      exact .isfalse
  · intro named
    generalize same : String.ofList name = text at named
    obtain rfl : name = text.toList := by rw [← same, String.toList_ofList]
    cases named <;> rfl

theorem check_chars {name : String} {check : Check} (named : NamesCheck name check) :
    name.toList ≠ [] ∧ ∀ c ∈ name.toList, isStepChar c = true := by
  cases named <;> exact ⟨by decide, List.all_eq_true.1 (by decide)⟩

theorem operator_sound {op : Comparison} (read : operator? cs = some (op, rest)) :
    ∃ symbol, cs = symbol ++ rest ∧ WritesOperator symbol op ∧
      ∀ c ∈ rest.head?, ∀ other, ¬WritesOperator (symbol ++ [c]) other := by
  have single : (∀ tail, rest = '=' :: tail → False) → ∀ {d : Char},
      ∀ c ∈ rest.head?, ∀ other, ¬WritesOperator ([d] ++ [c]) other := by
    intro alone d c first other longer
    cases rest with
    | nil => cases first
    | cons e tail =>
      obtain rfl := Option.some.inj first
      cases longer <;> exact alone tail rfl
  unfold operator? at read
  split at read
  · obtain ⟨rfl, rfl⟩ := Prod.mk.inj (Option.some.inj read)
    exact ⟨_, rfl, .ne, fun c _ other longer => by cases longer⟩
  · obtain ⟨rfl, rfl⟩ := Prod.mk.inj (Option.some.inj read)
    exact ⟨_, rfl, .gte, fun c _ other longer => by cases longer⟩
  · obtain ⟨rfl, rfl⟩ := Prod.mk.inj (Option.some.inj read)
    exact ⟨_, rfl, .lte, fun c _ other longer => by cases longer⟩
  · obtain ⟨rfl, rfl⟩ := Prod.mk.inj (Option.some.inj read)
    exact ⟨_, rfl, .doubled, fun c _ other longer => by cases longer⟩
  · rename_i alone
    obtain ⟨rfl, rfl⟩ := Prod.mk.inj (Option.some.inj read)
    exact ⟨_, rfl, .eq, single alone⟩
  · rename_i alone
    obtain ⟨rfl, rfl⟩ := Prod.mk.inj (Option.some.inj read)
    exact ⟨_, rfl, .gt, single alone⟩
  · rename_i alone
    obtain ⟨rfl, rfl⟩ := Prod.mk.inj (Option.some.inj read)
    exact ⟨_, rfl, .lt, single alone⟩
  · obtain ⟨rfl, rfl⟩ := Prod.mk.inj (Option.some.inj read)
    exact ⟨_, rfl, .contains, fun c _ other longer => by cases longer⟩
  · cases read

theorem operator_complete {symbol : List Char} {op : Comparison}
    (operator : WritesOperator symbol op)
    (longest : ∀ c ∈ rest.head?, ∀ other, ¬WritesOperator (symbol ++ [c]) other) :
    operator? (symbol ++ rest) = some (op, rest) := by
  cases rest with
  | nil => cases operator <;> rfl
  | cons c rest =>
    have longest := longest c rfl
    cases operator with
    | eq =>
      have alone : c ≠ '=' := by
        rintro rfl
        exact longest _ .doubled
      simp [operator?, alone]
    | gt =>
      have alone : c ≠ '=' := by
        rintro rfl
        exact longest _ .gte
      simp [operator?, alone]
    | lt =>
      have alone : c ≠ '=' := by
        rintro rfl
        exact longest _ .lte
      simp [operator?, alone]
    | _ => rfl

theorem operator_name {c : Char} (step : isStepChar c = true) (cs : List Char) :
    operator? (c :: cs) = none := by
  unfold operator?
  split
  all_goals first
    | rfl
    | (obtain ⟨rfl, -⟩ := List.cons.inj ‹_›; exact absurd step (by decide))

theorem comparedText_sound (read : comparedText cs = some (text, rest)) :
    ∃ written, cs = written ++ rest ∧ written ≠ [] ∧ WritesCompared written text := by
  cases cs with
  | nil => cases read
  | cons c cs =>
    rw [comparedText] at read
    split at read
    · rename_i opens
      obtain ⟨written, shape, quoted⟩ := quoted_of_read opens read
      obtain ⟨quote, body, rfl, -⟩ := quoted_shape quoted
      exact ⟨_, shape, List.cons_ne_nil _ _, .quoted quoted⟩
    · rename_i plain
      obtain ⟨before, after, shape, blankBefore, blankAfter, bare⟩ := bareText_sound read
      have noQuote : NoQuote (before ++ text) := by
        intro d first
        have same : some c = some d := by
          rw [← Option.mem_def.1 first, ← List.head?_cons (l := cs), shape, ← List.append_assoc,
            List.head?_append, Option.mem_def.1 first]
          rfl
        exact Option.some.inj same ▸ noQuote_iff.1 (Bool.eq_false_iff.2 plain)
      have some : before ++ (text ++ after) ≠ [] := by simp [bare.some]
      exact ⟨_, by simp [shape], some, .bare blankBefore bare blankAfter noQuote⟩

theorem comparedText_complete {written : List Char} {c : Char}
    (compared : WritesCompared written text) (ends : c = '[' ∨ c = '\x7d') (rest : List Char) :
    comparedText (written ++ c :: rest) = some (text, c :: rest) := by
  cases compared with
  | quoted quoted =>
    obtain ⟨quote, body, rfl, quotes, -, taken⟩ := quoted_shape quoted
    rw [List.cons_append, List.append_assoc, List.singleton_append, comparedText, if_pos quotes,
      taken]
  | @bare before text after blankBefore bare blankAfter noQuote =>
    have stop : c ∈ ['[', '\x7d', '\x7b'] := by rcases ends with rfl | rfl <;> decide
    have noOpen : c ≠ '\x7b' := by rcases ends with rfl | rfl <;> decide
    have read := bareText_complete bare blankBefore blankAfter (List.all_eq_true.1 (by decide))
      stop noOpen rest
    have some : before ++ text ≠ [] := by simp [bare.some]
    have shape : before ++ (text ++ after) ++ c :: rest =
        before ++ (text ++ (after ++ c :: rest)) := by simp
    rw [shape]
    obtain ⟨d, front, same⟩ := List.exists_cons_of_ne_nil some
    rw [← List.append_assoc, same, List.cons_append] at read ⊢
    have plain := noQuote_iff.2 (noQuote d (by rw [same]; rfl))
    rw [comparedText, if_neg (by simp [plain]), read]

theorem readStep_sound {s : Step} (read : readStep cs = some (s, rest))
    (some : cs.takeWhile isStepChar ≠ []) (noCheck : check? (cs.takeWhile isStepChar) = none) :
    ∃ written, cs = written ++ rest ∧ WritesStep written s := by
  have named : IsStepName (cs.takeWhile isStepChar) := by
    refine ⟨some, fun _ => List.mem_takeWhile_imp, fun check names => ?_⟩
    rw [check_iff.2 names] at noCheck
    cases noCheck
  have whole := List.takeWhile_append_dropWhile (p := isStepChar) (l := cs)
  simp only [readStep] at read
  split at read
  · rename_i tail parens
    obtain ⟨⟨as, after⟩, found, same⟩ := Option.map_eq_some_iff.1 read
    obtain ⟨rfl, rfl⟩ := Prod.mk.inj same
    obtain ⟨inside, rfl, arguments⟩ := readArguments_sound found
    refine ⟨_, whole.symm.trans ?_, .applied named arguments⟩
    rw [parens]
    simp
  · obtain ⟨rfl, rfl⟩ := Prod.mk.inj (Option.some.inj read)
    exact ⟨_, whole.symm, .bare named⟩

theorem readStep_complete {written : List Char} {s : Step} (step : WritesStep written s)
    (ends : ∀ c ∈ rest.head?, isStepChar c = false ∧ c ≠ '(') :
    IsStepName s.name ∧ (written ++ rest).takeWhile isStepChar = s.name ∧
      readStep (written ++ rest) = some (s, rest) := by
  cases step with
  | bare named =>
    obtain ⟨taken, left⟩ := while_taken named.chars fun c first => (ends c first).1
    refine ⟨named, taken, ?_⟩
    rw [readStep, taken, left]
    split
    · rename_i tail
      exact absurd rfl (ends '(' rfl).2
    · rfl
  | @applied name inside as named arguments =>
    have opens : ∀ c ∈ ('(' :: (inside ++ ')' :: rest)).head?, isStepChar c = false := by
      rintro c ⟨⟩
      decide
    obtain ⟨taken, left⟩ := while_taken named.chars opens
    have shape : name ++ '(' :: (inside ++ [')']) ++ rest =
        name ++ '(' :: (inside ++ ')' :: rest) := by simp
    refine ⟨named, shape ▸ taken, ?_⟩
    rw [shape, readStep, taken, left]
    change (readArguments (inside ++ ')' :: rest)).map _ = _
    rw [readArguments_complete arguments]
    rfl

/-- What may stand after a step: another one, or what a head ends at. -/
def EndsStep (rest : List Char) : Prop := ∀ c ∈ rest.head?, c = ':' ∨ c = '[' ∨ c = '\x7d'

theorem steps_endsStep {written : List Char} {ss : List Step} {check : Option Check}
    (steps : WritesSteps written ss check) (ends : EndsStep rest) : EndsStep (written ++ rest) := by
  intro c first
  cases steps with
  | done => exact ends c first
  | _ => exact .inl (Option.some.inj first).symm

theorem step_ends (ends : EndsStep rest) : ∀ c ∈ rest.head?, isStepChar c = false ∧ c ≠ '(' := by
  intro c first
  rcases ends c first with rfl | rfl | rfl <;> decide

theorem readSteps_sound {ss : List Step} {check : Option Check}
    (read : readSteps cs = some (ss, check, rest)) :
    ∃ written, cs = written ++ rest ∧ WritesSteps written ss check := by
  fun_induction readSteps cs generalizing ss check rest with
  | case1 cs op after found =>
    obtain ⟨⟨literal, tail⟩, compared, closed⟩ := Option.bind_eq_some_iff.1 read
    obtain ⟨rfl, rfl, rfl⟩ := closing_parts closed
    obtain ⟨symbol, rfl, operator, longest⟩ := operator_sound found
    obtain ⟨written, rfl, some, writes⟩ := comparedText_sound compared
    refine ⟨':' :: ':' :: (symbol ++ written), by simp, .compare operator writes fun c first => ?_⟩
    exact longest c (by rw [List.head?_append, Option.mem_def.1 first]; rfl)
  | case2 | case4 => cases read
  | case3 cs noOperator name some check =>
    rename_i named
    obtain ⟨rfl, rfl, rfl⟩ := closing_parts read
    refine ⟨':' :: ':' :: name, ?_, ?_⟩
    · exact congrArg (':' :: ':' :: ·) List.takeWhile_append_dropWhile.symm
    · have writes := WritesSteps.flag (check_iff.1 named)
      rwa [String.toList_ofList] at writes
  | case5 cs _ name some noCheck s after stepRead =>
    rename_i ih
    obtain ⟨⟨others, c, tail⟩, later, same⟩ := Option.map_eq_some_iff.1 read
    cases same
    obtain ⟨front, rfl, step⟩ := readStep_sound stepRead some noCheck
    obtain ⟨written, rfl, steps⟩ := ih later
    exact ⟨':' :: ':' :: (front ++ written), by simp, .step step steps⟩
  | case6 =>
    obtain ⟨rfl, same⟩ := Prod.mk.inj (Option.some.inj read)
    obtain ⟨rfl, rfl⟩ := Prod.mk.inj same
    exact ⟨[], rfl, .done⟩

theorem closing_ends (check : Check) {c : Char} (noColon : c ≠ ':') (rest : List Char) :
    closing check (c :: rest) = some ([], some check, c :: rest) := by
  rw [closing]
  rintro more same
  exact noColon (List.cons.inj same).1

theorem operator_of_name {name : List Char} (some : name ≠ [])
    (chars : ∀ c ∈ name, isStepChar c = true) (rest : List Char) :
    operator? (name ++ rest) = none := by
  obtain ⟨c, name, rfl⟩ := List.exists_cons_of_ne_nil some
  exact operator_name (chars c List.mem_cons_self) (name ++ rest)

theorem readSteps_flag {name rest : List Char} {check : Check} {c : Char}
    (named : check? name = some check) (some : name ≠ [])
    (chars : ∀ d ∈ name, isStepChar d = true) (ends : c = '[' ∨ c = '\x7d') :
    readSteps (':' :: ':' :: (name ++ c :: rest)) = .some ([], .some check, c :: rest) := by
  have noColon : c ≠ ':' := by rcases ends with rfl | rfl <;> decide
  have stop : ∀ d ∈ (c :: rest).head?, isStepChar d = false := by
    rintro d ⟨⟩
    rcases ends with rfl | rfl <;> decide
  obtain ⟨taken, left⟩ := while_taken chars stop
  rw [readSteps, operator_of_name some chars]
  simp only [taken, left, if_neg some, named, closing_ends check noColon]

theorem readSteps_step {written rest : List Char} {s : Step} (step : WritesStep written s)
    (ends : EndsStep rest) :
    readSteps (':' :: ':' :: (written ++ rest)) =
      (readSteps rest).map fun (ss, check, rest) => (s :: ss, check, rest) := by
  obtain ⟨named, taken, read⟩ := readStep_complete step (step_ends ends)
  have noOperator : operator? (written ++ rest) = none := by
    have first := List.takeWhile_append_dropWhile (p := isStepChar) (l := written ++ rest)
    rw [taken] at first
    rw [← first]
    exact operator_of_name named.some named.chars _
  have noCheck : check? s.name = none := by
    cases found : check? s.name with
    | none => rfl
    | some check => exact absurd (check_iff.1 found) (named.noCheck check)
  rw [readSteps, noOperator]
  simp only [taken, if_neg named.some, noCheck]
  split
  · rename_i none
    rw [read] at none
    cases none
  · rename_i t left again
    obtain ⟨rfl, rfl⟩ := Prod.mk.inj (Option.some.inj (read.symm.trans again))
    rfl

theorem readSteps_complete {written : List Char} {ss : List Step} {check : Option Check} {c : Char}
    (steps : WritesSteps written ss check) (ends : c = '[' ∨ c = '\x7d') (rest : List Char) :
    readSteps (written ++ c :: rest) = some (ss, check, c :: rest) := by
  have noColon : c ≠ ':' := by rcases ends with rfl | rfl <;> decide
  have last : EndsStep (c :: rest) := fun d first => Option.some.inj first ▸ .inr ends
  induction steps with
  | done =>
    rw [List.nil_append, readSteps]
    rintro more same
    exact noColon (List.cons.inj same).1
  | @flag name check named =>
    obtain ⟨some, chars⟩ := check_chars named
    have found : check? name.toList = .some check := by
      rw [check_iff, String.ofList_toList]
      exact named
    exact readSteps_flag found some chars ends
  | @compare symbol written text op operator compared longest =>
    have some : written ≠ [] := by
      cases compared with
      | quoted quoted =>
        obtain ⟨quote, body, rfl, -⟩ := quoted_shape quoted
        exact List.cons_ne_nil _ _
      | bare _ bare _ _ => simp [bare.some]
    have longest : ∀ d ∈ (written ++ c :: rest).head?, ∀ other,
        ¬WritesOperator (symbol ++ [d]) other := by
      obtain ⟨e, tail, rfl⟩ := List.exists_cons_of_ne_nil some
      exact longest
    rw [List.cons_append, List.cons_append, List.append_assoc, readSteps,
      operator_complete operator longest]
    change ((comparedText (written ++ c :: rest)).bind fun r =>
      closing (.compare op r.1) r.2) = _
    rw [comparedText_complete compared ends, Option.bind_some, closing_ends _ noColon]
  | @step written more s ss check first later ih =>
    rw [List.cons_append, List.cons_append, List.append_assoc,
      readSteps_step first (steps_endsStep later last), ih]
    rfl

def isPathChar (c : Char) : Bool := c = '.' || isSegmentChar c

theorem head_read_eq (cs : List Char) :
    Head.read cs =
      if (splitAtChar '.' (cs.takeWhile isPathChar)).all isSegment then
        (readSteps (cs.dropWhile isPathChar)).map fun r =>
          (⟨cs.takeWhile isPathChar, r.1, r.2.1⟩, r.2.2)
      else none := rfl

theorem path_chars {p : List Char} (path : (splitAtChar '.' p).all isSegment = true) :
    ∀ c ∈ p, isPathChar c = true := by
  intro c member
  rw [isPathChar, Bool.or_eq_true, decide_eq_true_iff]
  have place : c = '.' ∨ ∃ part ∈ splitAtChar '.' p, c ∈ part := mem_splitAtChar member
  rcases place with same | ⟨part, found, within⟩
  · exact .inl same
  · have segment := List.all_eq_true.1 path part found
    rw [isSegment, Bool.and_eq_true] at segment
    exact .inr (List.all_eq_true.1 segment.2 c within)

/-- What is read as a head is what the grammar says, where a branch begins or the construct ends. -/
theorem head_read_iff {head : Head} {c : Char} (ends : c = '[' ∨ c = '\x7d') :
    Head.read cs = some (head, c :: rest) ↔
      ∃ written, cs = written ++ c :: rest ∧ WritesHead written head := by
  constructor
  · intro read
    rw [head_read_eq] at read
    split at read
    · rename_i path
      obtain ⟨⟨ss, check, tail⟩, steps, same⟩ := Option.map_eq_some_iff.1 read
      obtain ⟨rfl, rfl⟩ := Prod.mk.inj same
      obtain ⟨written, shape, writes⟩ := readSteps_sound steps
      have named : IsPath (String.ofList (cs.takeWhile isPathChar))
          ((splitAtChar '.' (cs.takeWhile isPathChar)).map String.ofList) := by
        rw [isPath_iff, String.toList_ofList]
        exact ⟨path, rfl⟩
      refine ⟨cs.takeWhile isPathChar ++ written, ?_, .mk named writes⟩
      rw [List.append_assoc, ← shape, List.takeWhile_append_dropWhile]
    · cases read
  · rintro ⟨written, rfl, named, steps⟩
    rename_i path more segments ss check
    rw [isPath_iff, String.toList_ofList] at named
    have stop : EndsStep (more ++ c :: rest) :=
      steps_endsStep steps fun d first => Option.some.inj first ▸ .inr ends
    have apart : ∀ d ∈ (more ++ c :: rest).head?, isPathChar d = false := by
      intro d first
      rcases stop d first with rfl | rfl | rfl <;> decide
    obtain ⟨taken, left⟩ := while_taken (path_chars named.1) apart
    rw [List.append_assoc, head_read_eq, taken, left, if_pos named.1, readSteps_complete steps ends]
    rfl

end

end TitleTemplate.Legacy
