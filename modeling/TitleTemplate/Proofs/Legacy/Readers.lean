import TitleTemplate.Proofs.Legacy.Grammar
import TitleTemplate.Proofs.Legacy.KeptSpans

/-!
Readers that read constructs with another reader. What that reader keeps of the notes is kept by the
readers of branches, constructs and templates around it, and what they find is made of what it
finds.
-/
namespace TitleTemplate.Legacy

/-- Something that holds of the notes still holds when a construct has been read, and what has been
found is fit for its place. -/
structure Meets (source : List Char) (holds : Notes → Prop)
    (fit : Nat → List Char → Converted → Prop) (inside : Reader) : Prop where
  keeps : ∀ {offset cs notes}, Place source offset ('\x7b' :: cs) → holds notes →
    holds (inside offset cs notes).2
  finds : ∀ {offset cs notes found}, Place source offset ('\x7b' :: cs) → holds notes →
    (inside offset cs notes).1 = some found → fit offset cs found

variable {source : List Char} {holds : Notes → Prop} {fit : Nat → List Char → Converted → Prop}
  {inside : Reader}

theorem meets_imp {other : Nat → List Char → Converted → Prop}
    (meets : Meets source holds fit inside)
    (imp : ∀ {offset cs found}, fit offset cs found → other offset cs found) :
    Meets source holds other inside :=
  ⟨meets.keeps, fun place before result => imp (meets.finds place before result)⟩

theorem branchFrom_keeps (meets : Meets source holds fit inside) {quote : Char} {offset : Nat}
    {cs : List Char} {notes : Notes} (place : Place source offset cs) (before : holds notes) :
    holds (branchFrom inside quote offset cs notes).2 := by
  fun_induction branchFrom inside quote offset cs notes with
  | case1 => exact before
  | case2 offset notes c rest special ih => exact ih (place_cons (place_cons place)) before
  | case3 offset notes c rest plain ih => exact ih (place_cons place) before
  | case4 offset notes rest found after read start ih =>
    have kept := meets.keeps place before
    rw [read] at kept
    exact ih (place_drop place found.length) kept
  | case5 offset notes rest after read ih =>
    have kept := meets.keeps place before
    rw [read] at kept
    exact ih (place_cons place) kept
  | case6 => exact before
  | case7 offset notes c rest _ _ other ih => exact ih (place_cons place) before

theorem quote_cases {c : Char} (opens : isQuote c = true) : c = '"' ∨ c = '\'' := by
  rwa [isQuote, Bool.or_eq_true, decide_eq_true_iff, decide_eq_true_iff] at opens

theorem quote_not_open {c : Char} (opens : isQuote c = true) : c ≠ '\x7b' := by
  rcases quote_cases opens with rfl | rfl <;> decide

theorem place_quote {offset : Nat} {c : Char} {cs : List Char} (opens : isQuote c = true)
    (place : Place source offset (c :: cs)) : Place source (offset + 1) cs := by
  have next := place_cons place
  rcases quote_cases opens with rfl | rfl <;> exact next

theorem branch_keeps (meets : Meets source holds fit inside) {offset : Nat} {cs : List Char}
    {notes : Notes} (place : Place source offset cs) (before : holds notes) :
    holds (branch inside offset cs notes).2 := by
  cases cs with
  | nil => exact before
  | cons quote rest =>
    rw [branch]
    split
    · rename_i opens
      exact branchFrom_keeps meets (place_quote opens place) before
    · exact before

theorem place_first {offset : Nat} {cs rest : List Char} {head : Head}
    (place : Place source (offset + 1) cs) (read : Head.read cs = some (head, '[' :: rest)) :
    Place source (offset + 1 + byteSize (cs.take (cs.length - rest.length))) rest :=
  place_suffix place ((List.suffix_cons '[' rest).trans (head_suffix read))

theorem place_second {offset : Nat} {cs rest more : List Char} {head : Head} {n : Nat}
    (place : Place source (offset + 1) cs) (read : Head.read cs = some (head, '[' :: rest))
    (bars : rest.drop n = '|' :: '|' :: more) :
    Place source (offset + 1 + byteSize (cs.take (cs.length - more.length))) more :=
  place_suffix place (tail_suffix ((List.suffix_cons '[' rest).trans (head_suffix read)) bars)

theorem readConstruct_keeps_first (meets : Meets source holds fit inside) {offset : Nat}
    {cs rest : List Char} {notes : Notes} {head : Head}
    (place : Place source (offset + 1) cs) (read : Head.read cs = some (head, '[' :: rest))
    (first : holds (branch inside (offset + 1 + byteSize (cs.take (cs.length - rest.length))) rest
      notes).2) :
    holds (readConstruct inside offset cs notes).2 := by
  simp only [readConstruct, read]
  split
  · rename_i after branchRead
    rw [branchRead] at first
    exact first
  · rename_i found after branchRead
    rw [branchRead] at first
    split
    · exact first
    · rename_i more bars
      have second := branch_keeps meets (place_second place read bars) first
      split
      · rename_i later branchRead
        rw [branchRead] at second
        exact second
      · rename_i found later branchRead
        rw [branchRead] at second
        split
        · exact second
        · exact second
    · exact first

theorem readConstruct_keeps (meets : Meets source holds fit inside) {offset : Nat}
    {cs : List Char} {notes : Notes} (place : Place source (offset + 1) cs)
    (before : holds notes) : holds (readConstruct inside offset cs notes).2 := by
  by_cases opens : ∃ head rest, Head.read cs = some (head, '[' :: rest)
  · obtain ⟨head, rest, read⟩ := opens
    exact readConstruct_keeps_first meets place read
      (branch_keeps meets (place_first place read) before)
  · simp only [readConstruct]
    split
    · split
      · exact before
      · exact before
    · rename_i head rest read
      exact absurd ⟨head, rest, read⟩ opens
    · exact before

/-- What a construct may be converted to: what is written for its head, or a conditional over its
branches as they have been read from its place. -/
inductive Rewrites (inside : Reader) (offset : Nat) (cs : List Char) (notes : Notes) :
    Converted → Prop
  | output {head : Head} {rest : List Char} (read : Head.read cs = some (head, '\x7d' :: rest))
      (plain : head.check = none) :
      Rewrites inside offset cs notes ⟨cs.length - rest.length, braced head.operand⟩
  | single {head : Head} {rest tail : List Char} {first : Converted} {after : Notes}
      (read : Head.read cs = some (head, '[' :: rest))
      (whenTrue : branch inside (offset + 1 + byteSize (cs.take (cs.length - rest.length))) rest
        notes = (some first, after))
      (ends : rest.drop first.length = ']' :: '\x7d' :: tail) :
      Rewrites inside offset cs notes
        ⟨cs.length - tail.length, conditional head first.text []⟩
  | double {head : Head} {rest more tail : List Char} {first second : Converted}
      {between after : Notes}
      (read : Head.read cs = some (head, '[' :: rest))
      (whenTrue : branch inside (offset + 1 + byteSize (cs.take (cs.length - rest.length))) rest
        notes = (some first, between))
      (bars : rest.drop first.length = '|' :: '|' :: more)
      (whenFalse : branch inside (offset + 1 + byteSize (cs.take (cs.length - more.length))) more
        between = (some second, after))
      (ends : more.drop second.length = ']' :: '\x7d' :: tail) :
      Rewrites inside offset cs notes
        ⟨cs.length - tail.length, conditional head first.text second.text⟩

theorem readConstruct_rewrites {offset : Nat} {cs : List Char} {notes : Notes} {found : Converted}
    (result : (readConstruct inside offset cs notes).1 = some found) :
    Rewrites inside offset cs notes found := by
  simp only [readConstruct] at result
  split at result
  · rename_i head rest read
    split at result
    · cases result
    · rename_i plain
      obtain rfl := Option.some.inj result
      exact .output read (Option.not_isSome_iff_eq_none.1 plain)
  · rename_i head rest read
    split at result
    · cases result
    · rename_i first after whenTrue
      split at result
      · rename_i tail ends
        obtain rfl := Option.some.inj result
        exact .single read whenTrue ends
      · rename_i more bars
        split at result
        · cases result
        · rename_i second later whenFalse
          split at result
          · rename_i tail ends
            obtain rfl := Option.some.inj result
            exact .double read whenTrue bars whenFalse ends
          · cases result
      · cases result
  · cases result

theorem construct_known (depth : Nat) {offset : Nat} (cs : List Char) {notes : Notes}
    {found : Option Converted} (known : notes.known.lookup offset = some found) :
    construct depth offset cs notes = (found, notes) := by
  rw [construct, known]

theorem construct_deep {depth : Nat} {offset : Nat} (cs : List Char) {notes : Notes}
    (unknown : notes.known.lookup offset = none) (deep : maxDepth < depth) :
    construct depth offset cs notes =
      (none, (notes.tell (.constructTooDeep offset)).learn offset none) := by
  rw [construct, unknown]
  exact if_pos deep

theorem construct_read {depth : Nat} {offset : Nat} (cs : List Char) {notes : Notes}
    (unknown : notes.known.lookup offset = none) (shallow : ¬ maxDepth < depth) :
    construct depth offset cs notes =
      (let result := readConstruct (construct (depth + 1)) offset cs notes
       let found := result.1.filter (isReadable ·.text)
       (found, result.2.learn offset found)) := by
  rw [construct, unknown]
  exact if_neg shallow

/-- Whatever is remembered of a source fits its place. -/
def Notes.Fitting (fit : List Char → Converted → Prop) (source : List Char) (notes : Notes) :
    Prop :=
  ∀ offset cs found, notes.known.lookup offset = some (some found) →
    Place source offset ('\x7b' :: cs) → fit cs found

theorem fitting_start {fit : List Char → Converted → Prop} : Notes.Fitting fit source ⟨[], []⟩ :=
  fun _ _ _ known => by cases known

theorem fitting_learn {fit : List Char → Converted → Prop} {notes : Notes} {offset : Nat}
    {cs : List Char} {found : Option Converted} (fitting : notes.Fitting fit source)
    (place : Place source offset ('\x7b' :: cs)) (fits : ∀ f, found = some f → fit cs f) :
    (notes.learn offset found).Fitting fit source := by
  intro other ds f known there
  rw [Notes.learn, List.lookup_cons] at known
  split at known
  · rename_i same
    obtain rfl := beq_iff_eq.1 same
    obtain rfl := (List.cons.inj (place_unique place there)).2
    exact fits f (Option.some.inj known)
  · exact fitting other ds f known there

theorem construct_fits {fit : List Char → Converted → Prop} {depth offset : Nat} {cs : List Char}
    {notes : Notes} (place : Place source offset ('\x7b' :: cs)) (before : notes.Fitting fit source)
    (read : ¬ maxDepth < depth →
      (readConstruct (construct (depth + 1)) offset cs notes).2.Fitting fit source ∧
      ∀ found, (readConstruct (construct (depth + 1)) offset cs notes).1 = some found →
        isReadable found.text = true → fit cs found) :
    (construct depth offset cs notes).2.Fitting fit source ∧
      ∀ found, (construct depth offset cs notes).1 = some found → fit cs found := by
  cases known : notes.known.lookup offset with
  | some remembered =>
    rw [construct_known depth cs known]
    refine ⟨before, fun found same => ?_⟩
    exact before offset cs found (known.trans (congrArg some same)) place
  | none =>
    by_cases deep : maxDepth < depth
    · rw [construct_deep cs known deep]
      refine ⟨fitting_learn before place (by simp), fun found same => ?_⟩
      cases same
    · obtain ⟨after, fits⟩ := read deep
      rw [construct_read cs known deep]
      have filtered : ∀ found, ((readConstruct (construct (depth + 1)) offset cs notes).1.filter
          (isReadable ·.text)) = some found → fit cs found := by
        intro found same
        obtain ⟨result, readable⟩ := Option.filter_eq_some_iff.1 same
        exact fits found result readable
      exact ⟨fitting_learn after place filtered, filtered⟩

/-- A construct inside stands one deeper, and there is an end to that. -/
theorem depth_induction {motive : Nat → Prop}
    (step : ∀ depth, (¬maxDepth < depth → motive (depth + 1)) → motive depth) (depth : Nat) :
    motive depth := by
  induction room : maxDepth + 1 - depth generalizing depth with
  | zero => exact step depth fun shallow => by omega
  | succ room ih => exact step depth fun _ => ih (depth + 1) (by omega)

/-- What fits when it is read is what fits when it is remembered. Constructs that stand inside are
assumed to fit. -/
theorem construct_meets_fit {fit : List Char → Converted → Prop}
    (reads : ∀ {depth offset cs notes found},
      Meets source (Notes.Fitting fit source) (fun _ => fit) (construct depth) →
      Place source offset ('\x7b' :: cs) → notes.Fitting fit source →
      (readConstruct (construct depth) offset cs notes).1 = some found →
      isReadable found.text = true → fit cs found) (depth : Nat) :
    Meets source (Notes.Fitting fit source) (fun _ => fit) (construct depth) := by
  induction depth using depth_induction with
  | step depth ih =>
  have result : ∀ {offset cs notes}, Place source offset ('\x7b' :: cs) →
      notes.Fitting fit source →
      (construct depth offset cs notes).2.Fitting fit source ∧
        ∀ found, (construct depth offset cs notes).1 = some found → fit cs found := by
    intro offset cs notes place before
    exact construct_fits place before fun shallow =>
      ⟨readConstruct_keeps (ih shallow) (place_brace place) before,
        fun found => reads (ih shallow) place before⟩
  exact ⟨fun place before => (result place before).1,
    fun place before => (result place before).2 _⟩

theorem segmentsFrom_keeps (meets : Meets source holds fit inside)
    (told : ∀ {notes offset}, holds notes → holds (notes.tell (.keptSpan offset)))
    {offset : Nat} {cs : List Char} {notes : Notes} (place : Place source offset cs)
    (before : holds notes) : holds (segmentsFrom inside offset cs notes).2 := by
  fun_induction segmentsFrom inside offset cs notes with
  | case1 => exact before
  | case2 offset notes rest found after read start segments last later ih =>
    have kept := meets.keeps place before
    rw [read] at kept
    rw [later] at ih
    exact ih (place_drop place found.length) kept
  | case3 offset notes rest after read n span start told' segments last later ih =>
    have kept := meets.keeps place before
    rw [read] at kept
    rw [later] at ih
    exact ih (place_drop place n) (told kept)
  | case4 offset notes rest after read none segments last later ih =>
    have kept := meets.keeps place before
    rw [read] at kept
    rw [later] at ih
    exact ih (place_cons place) kept
  | case5 offset notes c rest plain segments last later ih =>
    rw [later] at ih
    exact ih (place_cons place) before

def Spelled (text : List Char) : Prop :=
  ∃ height nodes, Spells Limits.default.depth height text nodes

theorem spelled_append {a b : List Char} (first : Spelled a) (second : Spelled b) :
    Spelled (a ++ b) := by
  obtain ⟨h, ns, first⟩ := first
  obtain ⟨k, ms, second⟩ := second
  exact ⟨max h k, ns ++ ms, spells_append first second⟩

theorem spelled_cons {c : Char} {text : List Char} (notOpen : c ≠ '\x7b')
    (later : Spelled text) : Spelled (c :: text) :=
  spelled_append ⟨0, _, spells_char (by simpa [isOpen] using notOpen)⟩ later

theorem branchFrom_spelled
    (meets : Meets source holds (fun _ _ found => Spelled found.text) inside) {quote : Char}
    (notOpen : quote ≠ '\x7b') {offset : Nat} {cs : List Char} {notes : Notes}
    (place : Place source offset cs) (before : holds notes) {found : Converted}
    (result : (branchFrom inside quote offset cs notes).1 = some found) :
    Spelled found.text := by
  fun_induction branchFrom inside quote offset cs notes generalizing found with
  | case1 => cases result
  | case2 offset notes c rest special ih =>
    obtain ⟨later, shorter, rfl⟩ := Option.map_eq_some_iff.1 result
    refine spelled_cons ?_ (ih (place_cons (place_cons place)) before shorter)
    rcases special with rfl | rfl
    · exact notOpen
    · decide
  | case3 offset notes c rest plain ih =>
    obtain ⟨later, shorter, rfl⟩ := Option.map_eq_some_iff.1 result
    exact spelled_cons (by decide) (ih (place_cons place) before shorter)
  | case4 offset notes rest inner after read start ih =>
    have kept := meets.keeps place before
    have fits := meets.finds place before (congrArg Prod.fst read)
    rw [read] at kept
    obtain ⟨later, shorter, rfl⟩ := Option.map_eq_some_iff.1 result
    exact spelled_append fits (ih (place_drop place inner.length) kept shorter)
  | case5 offset notes rest after read ih =>
    have kept := meets.keeps place before
    rw [read] at kept
    obtain ⟨later, shorter, rfl⟩ := Option.map_eq_some_iff.1 result
    exact spelled_append ⟨0, _, spells_brace⟩ (ih (place_cons place) kept shorter)
  | case6 =>
    obtain rfl := Option.some.inj result
    exact ⟨0, [], spells_nil⟩
  | case7 offset notes c rest _ notBrace other ih =>
    obtain ⟨later, shorter, rfl⟩ := Option.map_eq_some_iff.1 result
    exact spelled_cons notBrace (ih (place_cons place) before shorter)

theorem branch_spelled (meets : Meets source holds (fun _ _ found => Spelled found.text) inside)
    {offset : Nat} {cs : List Char} {notes : Notes} (place : Place source offset cs)
    (before : holds notes) {found : Converted}
    (result : (branch inside offset cs notes).1 = some found) : Spelled found.text := by
  cases cs with
  | nil => cases result
  | cons quote rest =>
    rw [branch] at result
    split at result
    · rename_i opens
      obtain ⟨later, shorter, rfl⟩ := Option.map_eq_some_iff.1 result
      have fits : Spelled later.text :=
        branchFrom_spelled meets (quote_not_open opens) (place_quote opens place) before shorter
      exact fits
    · cases result

end TitleTemplate.Legacy
