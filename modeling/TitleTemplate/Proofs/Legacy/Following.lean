import TitleTemplate.Proofs.Legacy.Readers

/-!
Two ways to read the constructs of a source. As long as the second way goes well, the first one
finds the same constructs, and what relates the notes of the two goes on relating them; then the
same is true of the branches, constructs and templates that are read around them.
-/
namespace TitleTemplate.Legacy

def Agree {α : Type} (related : Notes → Notes → Prop) (x y : α × Notes) : Prop :=
  x.1 = y.1 ∧ related x.2 y.2

/-- Reading a construct in the first way does what reading it in the second way does, if that goes
well. Whether it goes well is said of the notes it leaves. -/
def Follows (source : List Char) (related : Notes → Notes → Prop) (well : Notes → Prop)
    (first second : Reader) : Prop :=
  ∀ ⦃offset : Nat⦄ ⦃cs : List Char⦄ ⦃m n : Notes⦄, Place source offset ('\x7b' :: cs) →
    related m n → well (second offset cs n).2 →
    Agree related (first offset cs m) (second offset cs n)

/-- What has not gone well does not go well afterwards. -/
abbrev Steady (source : List Char) (well : Notes → Prop) (inside : Reader) : Prop :=
  Meets source (fun notes => ¬ well notes) (fun _ _ _ => True) inside

variable {source : List Char} {related : Notes → Notes → Prop} {well : Notes → Prop}
  {first second : Reader}

theorem agree_prepend {x y : Option Converted × Notes} (agree : Agree related x y) (taken : Nat)
    (text : List Char) :
    Agree related (Converted.prepend taken text x) (Converted.prepend taken text y) := by
  refine ⟨?_, agree.2⟩
  rw [Converted.prepend, agree.1]
  rfl

theorem branchFrom_brace (inside : Reader) (quote : Char) (offset : Nat) (rest : List Char)
    (notes : Notes) :
    branchFrom inside quote offset ('\x7b' :: rest) notes =
      match (inside offset rest notes).1 with
      | some found =>
        Converted.prepend (1 + found.length) found.text
          (branchFrom inside quote (offset + 1 + byteSize (rest.take found.length))
            (rest.drop found.length) (inside offset rest notes).2)
      | none =>
        Converted.prepend 1 ['\x7b', '\x7b']
          (branchFrom inside quote (offset + 1) rest (inside offset rest notes).2) := by
  rw [branchFrom]
  obtain ⟨result, after⟩ := inside offset rest notes
  cases result <;> rfl

theorem branchFrom_well (steady : Steady source well second) {quote : Char} {offset : Nat}
    {cs : List Char} {notes : Notes} (place : Place source offset cs)
    (good : well (branchFrom second quote offset cs notes).2) : well notes := by
  by_contra bad
  exact branchFrom_keeps steady place bad good

theorem branchFrom_follows (follows : Follows source related well first second)
    (steady : Steady source well second) {quote : Char} {offset : Nat} {cs : List Char}
    {m n : Notes} (place : Place source offset cs) (before : related m n)
    (good : well (branchFrom second quote offset cs n).2) :
    Agree related (branchFrom first quote offset cs m) (branchFrom second quote offset cs n) := by
  fun_induction branchFrom second quote offset cs n generalizing m with
  | case1 offset notes =>
    rw [branchFrom]
    exact ⟨rfl, before⟩
  | case2 offset notes c rest special ih =>
    rw [branchFrom, if_pos special]
    exact agree_prepend (ih (place_cons (place_cons place)) before good) 2 [c]
  | case3 offset notes c rest plain ih =>
    rw [branchFrom, if_neg plain]
    exact agree_prepend (ih (place_cons place) before good) 1 ['\\']
  | case4 offset notes rest found after read start =>
    rename_i ih
    have calm := branchFrom_well steady (place_drop place found.length) good
    have step := follows place before (read ▸ calm)
    rw [read] at step
    rw [branchFrom_brace, step.1]
    exact agree_prepend (ih (place_drop place found.length) step.2 good) _ _
  | case5 offset notes rest after read =>
    rename_i ih
    have calm := branchFrom_well steady (place_cons place) good
    have step := follows place before (read ▸ calm)
    rw [read] at step
    rw [branchFrom_brace, step.1]
    exact agree_prepend (ih (place_cons place) step.2 good) _ _
  | case6 offset notes rest escape brace =>
    rw [branchFrom]
    · rw [if_pos rfl]
      exact ⟨rfl, before⟩
    · exact escape
    · exact brace
  | case7 offset notes c rest escape brace other ih =>
    rw [branchFrom]
    · rw [if_neg other]
      exact agree_prepend (ih (place_cons place) before good) 1 [c]
    · exact escape
    · exact brace

theorem branch_follows (follows : Follows source related well first second)
    (steady : Steady source well second) {offset : Nat} {cs : List Char} {m n : Notes}
    (place : Place source offset cs) (before : related m n)
    (good : well (branch second offset cs n).2) :
    Agree related (branch first offset cs m) (branch second offset cs n) := by
  cases cs with
  | nil => exact ⟨rfl, before⟩
  | cons quote rest =>
    rw [branch] at good ⊢
    rw [branch]
    split
    · rename_i opens
      rw [if_pos opens] at good
      exact agree_prepend (branchFrom_follows follows steady (place_quote opens place) before good)
        1 []
    · exact ⟨rfl, before⟩

theorem readConstruct_follows (follows : Follows source related well first second)
    (steady : Steady source well second) {offset : Nat} {cs : List Char} {m n : Notes}
    (place : Place source (offset + 1) cs) (before : related m n)
    (good : well (readConstruct second offset cs n).2) :
    Agree related (readConstruct first offset cs m) (readConstruct second offset cs n) := by
  by_cases opens : ∃ head rest, Head.read cs = some (head, '[' :: rest)
  · obtain ⟨head, rest, read⟩ := opens
    have calm : well (branch second (offset + 1 + byteSize (cs.take (cs.length - rest.length)))
        rest n).2 := by
      by_contra bad
      exact readConstruct_keeps_first steady place read bad good
    have step := branch_follows follows steady (place_first place read) before calm
    simp only [readConstruct, read] at good ⊢
    rcases firstRead : branch first (offset + 1 + byteSize (cs.take (cs.length - rest.length)))
      rest m with ⟨found, after⟩
    rcases secondRead : branch second (offset + 1 + byteSize (cs.take (cs.length - rest.length)))
      rest n with ⟨found', after'⟩
    rw [firstRead, secondRead] at step
    obtain ⟨rfl, between⟩ := step
    simp only [secondRead] at good ⊢
    cases found with
    | none => exact ⟨rfl, between⟩
    | some found =>
      dsimp only at good between ⊢
      split at good
      · rename_i tail ends
        exact ⟨rfl, between⟩
      · rename_i more bars
        rcases firstMore : branch first
          (offset + 1 + byteSize (cs.take (cs.length - more.length))) more after with ⟨other, last⟩
        rcases secondMore : branch second
          (offset + 1 + byteSize (cs.take (cs.length - more.length))) more after'
          with ⟨other', last'⟩
        rw [secondMore] at good
        have calm : well last' := by
          cases other' with
          | none => exact good
          | some other' =>
            dsimp only at good
            split at good <;> exact good
        have step := branch_follows follows steady (place_second place read bars) between
          (secondMore ▸ calm)
        rw [firstMore, secondMore] at step
        obtain ⟨rfl, ended⟩ := step
        cases other with
        | none => exact ⟨rfl, ended⟩
        | some other =>
          dsimp only
          split
          · exact ⟨rfl, ended⟩
          · exact ⟨rfl, ended⟩
      · exact ⟨rfl, between⟩
  · simp only [readConstruct]
    split
    · split
      · exact ⟨rfl, before⟩
      · exact ⟨rfl, before⟩
    · rename_i head rest read
      exact absurd ⟨head, rest, read⟩ opens
    · exact ⟨rfl, before⟩

theorem agree_cons {x y : List Segment × Notes} (agree : Agree related x y) (s : Segment) :
    Agree related (s :: x.1, x.2) (s :: y.1, y.2) :=
  ⟨congrArg (s :: ·) agree.1, agree.2⟩

theorem segmentsFrom_brace (inside : Reader) (offset : Nat) (rest : List Char) (notes : Notes) :
    segmentsFrom inside offset ('\x7b' :: rest) notes =
      match (inside offset rest notes).1, keptSpan rest with
      | some found, _ =>
        let later := segmentsFrom inside (offset + 1 + byteSize (rest.take found.length))
          (rest.drop found.length) (inside offset rest notes).2
        (.rewritten found.text :: later.1, later.2)
      | none, some n =>
        let later := segmentsFrom inside (offset + 1 + byteSize (rest.take n)) (rest.drop n)
          ((inside offset rest notes).2.tell (.keptSpan offset))
        (.kept ('\x7b' :: rest.take n) :: later.1, later.2)
      | none, none =>
        let later := segmentsFrom inside (offset + 1) rest (inside offset rest notes).2
        (.brace :: later.1, later.2) := by
  rw [segmentsFrom, if_pos rfl]
  obtain ⟨result, after⟩ := inside offset rest notes
  cases result with
  | some found => rfl
  | none => cases keptSpan rest <;> rfl

theorem segmentsFrom_char (inside : Reader) (offset : Nat) {c : Char} (notOpen : c ≠ '\x7b')
    (rest : List Char) (notes : Notes) :
    segmentsFrom inside offset (c :: rest) notes =
      (.verbatim c :: (segmentsFrom inside (offset + c.utf8Size) rest notes).1,
        (segmentsFrom inside (offset + c.utf8Size) rest notes).2) := by
  rw [segmentsFrom, if_neg notOpen]

theorem segmentsFrom_well (steady : Steady source well second)
    (toldWell : ∀ {n : Notes} {offset : Nat}, well (n.tell (.keptSpan offset)) → well n)
    {offset : Nat} {cs : List Char} {notes : Notes} (place : Place source offset cs)
    (good : well (segmentsFrom second offset cs notes).2) : well notes := by
  by_contra bad
  exact segmentsFrom_keeps steady (fun before told => before (toldWell told)) place bad good

/-- The segments of a template are the same, if telling of a kept span does not matter. -/
theorem segmentsFrom_follows (follows : Follows source related well first second)
    (steady : Steady source well second)
    (told : ∀ {m n : Notes} {offset : Nat}, related m n →
      related (m.tell (.keptSpan offset)) (n.tell (.keptSpan offset)))
    (toldWell : ∀ {n : Notes} {offset : Nat}, well (n.tell (.keptSpan offset)) → well n)
    {offset : Nat} {cs : List Char} {m n : Notes} (place : Place source offset cs)
    (before : related m n) (good : well (segmentsFrom second offset cs n).2) :
    Agree related (segmentsFrom first offset cs m) (segmentsFrom second offset cs n) := by
  fun_induction segmentsFrom second offset cs n generalizing m with
  | case1 offset notes =>
    rw [segmentsFrom]
    exact ⟨rfl, before⟩
  | case2 offset notes rest found after read start segments last later =>
    rename_i ih
    rw [later] at ih
    have calm : well after := by
      refine segmentsFrom_well steady toldWell (place_drop place found.length) ?_
      rw [later]
      exact good
    have step := follows place before (read ▸ calm)
    rw [read] at step
    rw [segmentsFrom_brace, step.1]
    exact agree_cons (ih (place_drop place found.length) step.2 good) _
  | case3 offset notes rest after read n span start notes' segments last later =>
    rename_i ih
    rw [later] at ih
    have afterwards : well notes' := by
      refine segmentsFrom_well steady toldWell (place_drop place n) ?_
      rw [later]
      exact good
    have calm : well after := toldWell afterwards
    have step := follows place before (read ▸ calm)
    rw [read] at step
    rw [segmentsFrom_brace, step.1, span]
    exact agree_cons (ih (place_drop place n) (told step.2) good) _
  | case4 offset notes rest after read none segments last later =>
    rename_i ih
    rw [later] at ih
    have calm : well after := by
      refine segmentsFrom_well steady toldWell (place_brace place) ?_
      rw [later]
      exact good
    have step := follows place before (read ▸ calm)
    rw [read] at step
    rw [segmentsFrom_brace, step.1, none]
    exact agree_cons (ih (place_cons place) step.2 good) _
  | case5 offset notes c rest notOpen segments last later =>
    rename_i ih
    rw [later] at ih
    rw [segmentsFrom_char first offset notOpen]
    exact agree_cons (ih (place_cons place) before good) _

end TitleTemplate.Legacy
