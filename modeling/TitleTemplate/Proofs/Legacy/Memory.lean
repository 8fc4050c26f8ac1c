import TitleTemplate.Proofs.Legacy.Arrivals

/-!
Remembering what has been read. The conversion reads a construct once and remembers the result by
the offset; reading afresh also writes down what it finds, but never looks it up. The two convert a
template to the same text exactly if each brace outside of constructs stands for what it would stand
for afresh. That is so when no construct is refused for its depth, but not always: a construct that
has been refused deep inside of others, which then fail, may be found again where it is not deep.
-/
namespace TitleTemplate.Legacy

/-- Reads a construct whatever is known about its brace. -/
def constructAfresh (depth : Nat) : Reader := fun offset cs notes =>
  if maxDepth < depth then (none, (notes.tell (.constructTooDeep offset)).learn offset none)
  else
    let (found, notes) := readConstruct (constructAfresh (depth + 1)) offset cs notes
    let found := found.filter (isReadable ·.text)
    (found, notes.learn offset found)
termination_by maxDepth + 1 - depth

/-- The notes after a template has been converted without looking anything up. -/
def notesAfresh (template : String) : Notes :=
  (segmentsFrom (constructAfresh 0) 0 template.toList ⟨[], []⟩).2

def convertAfresh (template : String) : Logged String := convertWith (constructAfresh 0) template

/-- Every brace that is read again gives the same again. -/
def Notes.Consistent (notes : Notes) : Prop :=
  ∀ offset a b, (offset, a) ∈ notes.known → (offset, b) ∈ notes.known → a = b

/-- No construct has been refused for its depth. -/
def Notes.Calm (notes : Notes) : Prop := ∀ offset, .constructTooDeep offset ∉ notes.events

theorem afresh_deep {depth : Nat} (offset : Nat) (cs : List Char) (notes : Notes)
    (deep : maxDepth < depth) :
    constructAfresh depth offset cs notes =
      (none, (notes.tell (.constructTooDeep offset)).learn offset none) := by
  rw [constructAfresh]
  exact if_pos deep

theorem afresh_read {depth : Nat} (offset : Nat) (cs : List Char) (notes : Notes)
    (shallow : ¬ maxDepth < depth) :
    constructAfresh depth offset cs notes =
      (let result := readConstruct (constructAfresh (depth + 1)) offset cs notes
       let found := result.1.filter (isReadable ·.text)
       (found, result.2.learn offset found)) := by
  rw [constructAfresh]
  exact if_neg shallow

variable {source : List Char}

/-- What reading afresh keeps is what refusing and learning keep, and what it finds is what may be
found with what has been found inside. -/
theorem afresh_meets {holds : Notes → Prop}
    (refused : ∀ {notes : Notes} (offset : Nat), holds notes →
      holds (notes.tell (.constructTooDeep offset)))
    (learned : ∀ {notes : Notes} (offset : Nat) (found : Option Converted), holds notes →
      holds (notes.learn offset found)) (depth : Nat) :
    Meets source holds (fun _ => MayFind none) (constructAfresh depth) := by
  induction depth using depth_induction with
  | step depth ih =>
  by_cases deep : maxDepth < depth
  · constructor
    · intro offset cs notes place before
      rw [afresh_deep offset cs notes deep]
      exact learned offset none (refused offset before)
    · intro offset cs notes found place before result
      rw [afresh_deep offset cs notes deep] at result
      cases result
  · have inner := ih deep
    constructor
    · intro offset cs notes place before
      rw [afresh_read offset cs notes deep]
      exact learned offset _ (readConstruct_keeps inner (place_brace place) before)
    · intro offset cs notes found place before result
      rw [afresh_read offset cs notes deep] at result
      obtain ⟨read, _⟩ := Option.filter_eq_some_iff.1 result
      exact readConstruct_mayFind inner (place_brace place) before read

theorem afresh_steady_log (log : List (Nat × Option Converted)) (depth : Nat) :
    Steady source (fun notes => ∀ e ∈ notes.known, e ∈ log) (constructAfresh depth) := by
  refine meets_imp (afresh_meets (fun offset bad => bad) (fun offset found bad good => ?_) depth)
    fun _ => trivial
  exact bad fun e member => good e (List.mem_cons_of_mem _ member)

theorem afresh_steady_calm (depth : Nat) :
    Steady source Notes.Calm (constructAfresh depth) := by
  refine meets_imp (afresh_meets (fun offset bad good => ?_) (fun offset found bad => bad) depth)
    fun _ => trivial
  exact bad fun other member => good other (List.mem_cons_of_mem _ member)

def Remembers (m n : Notes) : Prop :=
  ∀ offset found, m.known.lookup offset = some found → (offset, found) ∈ n.known

theorem remembers_learn {m n : Notes} (before : Remembers m n) (offset : Nat)
    (found : Option Converted) : Remembers (m.learn offset found) (n.learn offset found) := by
  intro other remembered known
  rw [Notes.learn, List.lookup_cons] at known
  split at known
  · rename_i same
    obtain rfl := beq_iff_eq.1 same
    obtain rfl := Option.some.inj known
    exact List.mem_cons_self
  · exact List.mem_cons_of_mem _ (before other remembered known)

theorem afresh_learns (depth offset : Nat) (cs : List Char) (notes : Notes) :
    (offset, (constructAfresh depth offset cs notes).1) ∈
      (constructAfresh depth offset cs notes).2.known := by
  by_cases deep : maxDepth < depth
  · rw [afresh_deep offset cs notes deep]
    exact List.mem_cons_self
  · rw [afresh_read offset cs notes deep]
    exact List.mem_cons_self

theorem afresh_grows {depth offset : Nat} {cs : List Char} {notes : Notes}
    (place : Place source offset ('\x7b' :: cs)) {entry : Nat × Option Converted}
    (member : entry ∈ notes.known) :
    entry ∈ (constructAfresh depth offset cs notes).2.known := by
  have grows : Meets source (fun notes => entry ∈ notes.known) (fun _ => MayFind none)
      (constructAfresh depth) := by
    refine afresh_meets ?_ ?_ depth
    · intro notes offset kept
      exact kept
    · intro notes offset found kept
      exact List.mem_cons_of_mem _ kept
  exact grows.keeps place member

theorem known_follows {log : List (Nat × Option Converted)}
    (consistent : ∀ offset a b, (offset, a) ∈ log → (offset, b) ∈ log → a = b) {depth offset : Nat}
    {cs : List Char} {m n : Notes} {found : Option Converted}
    (place : Place source offset ('\x7b' :: cs)) (before : Remembers m n)
    (good : ∀ e ∈ (constructAfresh depth offset cs n).2.known, e ∈ log)
    (known : m.known.lookup offset = some found) :
    Agree Remembers (found, m) (constructAfresh depth offset cs n) := by
  constructor
  · have remembered := good _ (afresh_grows place (before offset found known))
    exact consistent offset _ _ remembered (good _ (afresh_learns depth offset cs n))
  · intro other value there
    exact afresh_grows place (before other value there)

theorem construct_follows {log : List (Nat × Option Converted)}
    (consistent : ∀ offset a b, (offset, a) ∈ log → (offset, b) ∈ log → a = b) (depth : Nat) :
    Follows source Remembers (fun notes => ∀ e ∈ notes.known, e ∈ log) (construct depth)
      (constructAfresh depth) := by
  induction depth using depth_induction with
  | step depth ih =>
  intro offset cs m n place before good
  cases known : m.known.lookup offset with
  | some found =>
    rw [construct_known depth cs known]
    exact known_follows consistent place before good known
  | none =>
    by_cases deep : maxDepth < depth
    · rw [construct_deep cs known deep, afresh_deep offset cs n deep]
      exact ⟨rfl, remembers_learn before offset none⟩
    · rw [construct_read cs known deep]
      rw [afresh_read offset cs n deep] at good ⊢
      have inner : ∀ e ∈ (readConstruct (constructAfresh (depth + 1)) offset cs n).2.known,
          e ∈ log := fun e member => good e (List.mem_cons_of_mem _ member)
      obtain ⟨same, after⟩ := readConstruct_follows (ih deep)
        (afresh_steady_log log (depth + 1)) (place_brace place) before inner
      simp only [same]
      exact ⟨rfl, remembers_learn after offset _⟩

theorem convert_of_consistent (template : String)
    (consistent : (notesAfresh template).Consistent) :
    (convert template).value = (convertAfresh template).value := by
  have start : Remembers ⟨[], []⟩ ⟨[], []⟩ := by
    intro offset found known
    cases known
  have same := segmentsFrom_follows (construct_follows consistent 0)
    (afresh_steady_log (notesAfresh template).known 0) (fun before => before) (fun good => good)
    (place_start template.toList) start (fun e member => member)
  rw [convert, convertAfresh, convertWith, convertWith]
  exact congrArg (fun segments : List Segment =>
    String.ofList (segments.flatMap Segment.written)) same.1

/-- What is found deep inside without being refused is found where it is less deep. -/
theorem afresh_follows {depth deeper : Nat} (le : depth ≤ deeper) :
    Follows source (fun _ _ => True) Notes.Calm (constructAfresh depth)
      (constructAfresh deeper) := by
  induction deeper using depth_induction generalizing depth with
  | step deeper ih =>
  intro offset cs m n place before good
  by_cases deep : maxDepth < deeper
  · rw [afresh_deep offset cs n deep] at good
    exact absurd List.mem_cons_self (good offset)
  · rw [afresh_read offset cs n deep] at good ⊢
    rw [afresh_read offset cs m (by omega)]
    have follows : Follows source (fun _ _ => True) Notes.Calm (constructAfresh (depth + 1))
        (constructAfresh (deeper + 1)) := ih deep (Nat.succ_le_succ le)
    have inner : Agree (fun _ _ => True)
        (readConstruct (constructAfresh (depth + 1)) offset cs m)
        (readConstruct (constructAfresh (deeper + 1)) offset cs n) :=
      readConstruct_follows follows (afresh_steady_calm (deeper + 1)) (place_brace place) before
        good
    simp only [inner.1]
    exact ⟨rfl, trivial⟩

/-- Whatever has been found afresh is what is found at its brace, at some depth. -/
def Notes.Traced (source : List Char) (notes : Notes) : Prop :=
  ∀ offset found, (offset, found) ∈ notes.known → ∃ depth cs before,
    Place source offset ('\x7b' :: cs) ∧ (constructAfresh depth offset cs before).2.Calm ∧
    (constructAfresh depth offset cs before).1 = found

theorem afresh_traced (depth : Nat) :
    Meets source (fun notes => notes.Calm → notes.Traced source) (fun _ _ _ => True)
      (constructAfresh depth) := by
  induction depth using depth_induction with
  | step depth ih =>
  refine ⟨fun {offset cs notes} place before calm => ?_, fun _ _ _ => trivial⟩
  by_cases deep : maxDepth < depth
  · rw [afresh_deep offset cs notes deep] at calm
    exact absurd List.mem_cons_self (calm offset)
  · have result := afresh_read offset cs notes deep
    have inner := readConstruct_keeps (ih deep) (place_brace place) before
    intro other found member
    rw [result] at member
    rcases List.mem_cons.1 member with last | earlier
    · obtain ⟨rfl, rfl⟩ := Prod.mk.inj last
      exact ⟨depth, cs, notes, place, calm, congrArg Prod.fst result⟩
    · rw [result] at calm
      exact inner calm other found earlier

theorem notesAfresh_traced (template : String) (calm : (notesAfresh template).Calm) :
    (notesAfresh template).Traced template.toList := by
  refine segmentsFrom_keeps (afresh_traced 0) ?_ (place_start template.toList) ?_ calm
  · intro notes offset before told
    exact before fun other member => told other (List.mem_cons_of_mem _ member)
  · intro _ offset found member
    cases member

theorem consistent_of_calm (template : String) (calm : (notesAfresh template).Calm) :
    (notesAfresh template).Consistent := by
  have traced := notesAfresh_traced template calm
  intro offset a b first second
  obtain ⟨depth, cs, m, place, calmFirst, rfl⟩ := traced offset a first
  obtain ⟨deeper, ds, n, there, calmSecond, rfl⟩ := traced offset b second
  obtain rfl := (List.cons.inj (place_unique place there)).2
  rcases Nat.le_total depth deeper with le | le
  · exact (afresh_follows (m := m) le place trivial calmSecond).1
  · exact (afresh_follows (m := n) le place trivial calmFirst).1.symm

theorem convertAfresh_events (template : String) :
    (convertAfresh template).events = (notesAfresh template).events.reverse := rfl

theorem afresh_steady (depth : Nat) :
    Follows source (fun _ _ => True) (fun _ => True) (constructAfresh depth)
      (constructAfresh depth) := by
  induction depth using depth_induction with
  | step depth ih =>
  intro offset cs m n place before good
  by_cases deep : maxDepth < depth
  · rw [afresh_deep offset cs m deep, afresh_deep offset cs n deep]
    exact ⟨rfl, trivial⟩
  · have inner : Agree (fun _ _ => True)
        (readConstruct (constructAfresh (depth + 1)) offset cs m)
        (readConstruct (constructAfresh (depth + 1)) offset cs n) :=
      readConstruct_follows (ih deep) ⟨fun _ bad => bad, fun _ _ _ => trivial⟩
        (place_brace place) before good
    rw [afresh_read offset cs m deep, afresh_read offset cs n deep]
    simp only [inner.1]
    exact ⟨rfl, trivial⟩

theorem remembered_alike : Alike source (construct 0) (constructAfresh 0) := by
  intro offset rest m n arrives
  have remembers : Meets source _ _ (construct 0) := construct_mayFind 0
  have rereads : Meets source (fun _ => True) (fun _ => MayFind none) (constructAfresh 0) :=
    afresh_meets (fun _ _ => trivial) (fun _ _ _ => trivial) 0
  have place := arrives_place arrives
  have before := arrives_keeps remembers (fun told => told) fitting_start arrives
  rw [pass_found, pass_found]
  cases remembered : (construct 0 offset rest m).1 with
  | none =>
    cases read : (constructAfresh 0 offset rest n).1 with
    | none => exact Or.inl rfl
    | some found =>
      exact coherent_symm (leftover_coherent (rereads.finds place trivial read))
  | some kept =>
    have finds := remembers.finds place before remembered
    cases read : (constructAfresh 0 offset rest n).1 with
    | none => exact leftover_coherent finds
    | some found => exact mayFind_coherent finds (rereads.finds place trivial read)

/-- Remembering what has been read makes no difference exactly if every brace outside of constructs
stands for what it would stand for if it were read afresh; and whenever it makes one, a construct
has been refused for its depth. -/
theorem remembering_makes_no_difference_iff (template : String) :
    ((convert template).value = (convertAfresh template).value ↔
      ∀ offset rest notes, Arrives (construct 0) template.toList offset ('\x7b' :: rest) notes →
        (pass (construct 0) offset rest notes).1 = (pass (constructAfresh 0) offset rest notes).1) ∧
    ((convert template).value ≠ (convertAfresh template).value →
      ∃ offset, .constructTooDeep offset ∈ (convertAfresh template).events) := by
  constructor
  · have alike : Alike template.toList (construct 0) (constructAfresh 0) := remembered_alike
    rw [← written_same_iff alike fun m n place =>
      (afresh_steady 0 (m := m) (n := n) place trivial trivial).1]
    exact String.ofList_inj
  · -- With nothing refused, a brace gives the same at every depth, so it may be remembered.
    intro differ
    by_contra none
    refine differ (convert_of_consistent template (consistent_of_calm template ?_))
    intro offset member
    refine none ⟨offset, ?_⟩
    rw [convertAfresh_events]
    exact List.mem_reverse.2 member

def unfinished : List Char := "\x7ba[\"".toList

/-- Inside of so many constructs the last one is refused, but none of the others is finished. -/
def refusedInside : String :=
  String.ofList ((List.replicate 33 unfinished).flatten ++ "\x7ba::b\x7d".toList)

theorem remembering_makes_a_difference :
    (convert refusedInside).value ≠ (convertAfresh refusedInside).value := by
  intro same
  have lists := congrArg String.toList same
  rw [convert, convertAfresh, convertWith, convertWith] at lists
  simp only [refusedInside, String.toList_ofList] at lists
  revert lists
  decide +kernel

end TitleTemplate.Legacy
