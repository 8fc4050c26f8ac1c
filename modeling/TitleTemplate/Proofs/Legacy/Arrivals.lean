import TitleTemplate.Proofs.Legacy.Following
import TitleTemplate.Proofs.Legacy.Refusals

/-!
The braces outside of constructs. Each of them stands for a construct, or for an output that is
kept, or it is doubled; and what is written for it is enough to tell what it stands for. So two ways
to read constructs convert a template to the same text exactly if they let every brace that the
conversion comes to stand for the same.
-/
namespace TitleTemplate.Legacy

/-- What a brace that begins no construct stands for: an output that is kept, or a brace that is
doubled. -/
def leftover (rest : List Char) : Converted :=
  match keptSpan rest with
  | some n => ⟨n, '\x7b' :: rest.take n⟩
  | none => ⟨0, ['\x7b', '\x7b']⟩

theorem readSteps_begins {cs rest : List Char} {ss : List Step} {check : Option Check}
    (read : readSteps cs = some (ss, check, rest)) :
    (ss = [] ∧ rest = cs) ∨ ∃ more, cs = ':' :: ':' :: more := by
  rw [readSteps.eq_def] at read
  split at read
  · rename_i more
    exact Or.inr ⟨more, rfl⟩
  · obtain ⟨rfl, same⟩ := Prod.mk.inj (Option.some.inj read)
    exact Or.inl ⟨rfl, (Prod.mk.inj same).2.symm⟩

theorem read_path {cs rest : List Char} {d : Char} {head : Head}
    (read : Head.read cs = some (head, d :: rest)) :
    ∃ c after, cs = head.path ++ c :: after ∧ (∀ x ∈ head.path, isPathChar x = true) ∧
      (c = ':' ∨ head.steps = [] ∧ c = d ∧ after = rest) := by
  simp only [Head.read] at read
  split at read
  · obtain ⟨⟨ss, check, tail⟩, steps, same⟩ := Option.map_eq_some_iff.1 read
    obtain ⟨rfl, rfl⟩ := Prod.mk.inj same
    have shape := List.takeWhile_append_dropWhile (p := isPathChar) (l := cs)
    have path : ∀ x ∈ cs.takeWhile isPathChar, isPathChar x = true :=
      fun x member => List.mem_takeWhile_imp member
    rcases readSteps_begins steps with ⟨rfl, whole⟩ | ⟨more, colons⟩
    · exact ⟨d, rest, whole ▸ shape.symm, path, Or.inr ⟨rfl, rfl, rfl⟩⟩
    · exact ⟨':', ':' :: more, colons ▸ shape.symm, path, Or.inl rfl⟩
  · cases read

theorem apart_paths {p q s t : List Char} {c d : Char} (first : ∀ x ∈ p, isPathChar x = true)
    (second : ∀ x ∈ q, isPathChar x = true) (ends : isPathChar c = false)
    (endsToo : isPathChar d = false) (differ : c ≠ d) : Apart (p ++ c :: s) (q ++ d :: t) := by
  intro u v same
  have rests := congrArg (List.dropWhile isPathChar) same
  rw [List.append_assoc, List.append_assoc, List.dropWhile_append_of_pos first,
    List.dropWhile_append_of_pos second, List.cons_append, List.cons_append,
    List.dropWhile_cons_of_neg (by rw [ends]; decide),
    List.dropWhile_cons_of_neg (by rw [endsToo]; decide)] at rests
  exact differ (List.cons.inj rests).1

theorem path_plain {c : Char} (path : isPathChar c = true) :
    c ≠ '\\' ∧ c ≠ '\x7b' ∧ c ≠ '\x7d' ∧ isQuote c = false := by
  have specials : (['\\', '\x7b', '\x7d', '"', '\''].all fun d => !isPathChar d) = true := by
    decide +kernel
  have other : ∀ d ∈ ['\\', '\x7b', '\x7d', '"', '\''], c ≠ d := by
    rintro d member rfl
    have none := List.all_eq_true.1 specials c member
    rw [path] at none
    cases none
  refine ⟨other _ (by simp), other _ (by simp), other _ (by simp), ?_⟩
  rw [isQuote, decide_eq_false (other '"' (by simp)), decide_eq_false (other '\'' (by simp))]
  rfl

theorem spanLength_path {p cs : List Char} (path : ∀ x ∈ p, isPathChar x = true) :
    spanLength none (p ++ cs) = (spanLength none cs).map (· + p.length) := by
  induction p with
  | nil => simp
  | cons c p ih =>
    obtain ⟨notEscape, notOpen, notClose, notQuote⟩ := path_plain (path c List.mem_cons_self)
    have later := ih fun x member => path x (List.mem_cons_of_mem c member)
    rw [List.cons_append, spanLength, if_neg notClose]
    · rw [if_neg notOpen, notQuote, if_neg Bool.false_ne_true, later, Option.map_map]
      rfl
    · exact fun same _ => notEscape same
    · exact fun _ _ same _ => notEscape same

theorem span_past_path {p more : List Char} {d : Char} {n : Nat}
    (path : ∀ x ∈ p, isPathChar x = true) (span : spanLength none (p ++ d :: more) = some n) :
    ∃ k, spanLength none (d :: more) = some (k + 1) ∧ n = k + 1 + p.length := by
  rw [spanLength_path path] at span
  obtain ⟨m, later, rfl⟩ := Option.map_eq_some_iff.1 span
  obtain ⟨inner, rest, _, rfl, _⟩ := spanLength_enclosed later
  exact ⟨inner.length, later, rfl⟩

theorem span_of_path {p after : List Char} {n : Nat} (path : ∀ x ∈ p, isPathChar x = true)
    (span : spanLength none (p ++ '\x7d' :: after) = some n) :
    n = p.length + 1 ∧ (p ++ '\x7d' :: after).take (p.length + 1) = p ++ ['\x7d'] := by
  obtain ⟨k, closes, rfl⟩ := span_past_path path span
  rw [spanLength, if_pos rfl] at closes
  · obtain rfl := Nat.succ.inj (Option.some.inj closes)
    rw [Nat.add_comm, List.take_length_add_append]
    exact ⟨rfl, rfl⟩
  · exact fun same => absurd same (by decide)
  · exact fun _ _ same => absurd same (by decide)

theorem apart_span {p q s more : List Char} {c d : Char} {n : Nat}
    (first : ∀ x ∈ p, isPathChar x = true) (second : ∀ x ∈ q, isPathChar x = true)
    (ends : isPathChar c = false) (endsToo : isPathChar d = false) (differ : c ≠ d)
    (span : spanLength none (q ++ d :: more) = some n) :
    Apart ('\x7b' :: (p ++ c :: s)) ('\x7b' :: (q ++ d :: more).take n) := by
  obtain ⟨k, _, rfl⟩ := span_past_path second span
  have shape : (q ++ d :: more).take (k + 1 + q.length) = q ++ d :: more.take k := by
    rw [Nat.add_comm, List.take_length_add_append, List.take_succ_cons]
  rw [shape]
  exact apart_after (apart_paths first second ends endsToo differ) ['\x7b']

theorem conditional_apart_span {cs text rest : List Char} {head : Head} {n : Nat}
    (read : Head.read cs = some (head, '[' :: rest)) (span : spanLength none cs = some n) :
    Apart ('\x7b' :: 'i' :: 'f' :: ' ' :: text) ('\x7b' :: cs.take n) := by
  obtain ⟨c, after, rfl, path, next⟩ := read_path read
  have word : ∀ x ∈ ['i', 'f'], isPathChar x = true := List.all_eq_true.1 (by decide +kernel)
  have blank : isPathChar ' ' = false := by decide +kernel
  rcases next with rfl | ⟨_, rfl, _⟩
  · exact apart_span word path blank (by decide +kernel) (by decide) span
  · exact apart_span word path blank (by decide +kernel) (by decide) span

theorem operand_begins (head : Head) :
    ∃ c text, (c = '|' ∨ c = '\x7d') ∧ head.operand ++ ['\x7d'] = head.path ++ c :: text := by
  rw [Head.operand, List.append_assoc]
  cases head.steps with
  | nil => exact ⟨'\x7d', [], Or.inr rfl, rfl⟩
  | cons s ss => exact ⟨'|', _, Or.inl rfl, rfl⟩

/-- A construct that is found where an output could be kept is that output, or the two part. -/
theorem leftover_coherent {cs : List Char} {found : Converted} (finds : MayFind none cs found) :
    Coherent found (leftover cs) := by
  rw [leftover]
  cases kept : keptSpan cs with
  | none =>
    have apart := apart_refused finds [] []
    rw [List.append_nil] at apart
    exact Or.inr apart
  | some n =>
    obtain ⟨span, _⟩ := Option.filter_eq_some_iff.1 kept
    cases finds with
    | @output _ rest head read =>
      obtain ⟨c, after, rfl, path, next⟩ := read_path read
      rcases next with rfl | ⟨none, rfl, rfl⟩
      · obtain ⟨c, text, closes, shape⟩ := operand_begins head
        refine Or.inr ?_
        dsimp only
        rw [braced, shape]
        rcases closes with rfl | rfl
        · exact apart_span path path (by decide +kernel) (by decide +kernel) (by decide) span
        · exact apart_span path path (by decide +kernel) (by decide +kernel) (by decide) span
      · obtain ⟨rfl, text⟩ := span_of_path path span
        have operand : head.operand = head.path := by rw [Head.operand, none]; simp
        have length : (head.path ++ '\x7d' :: after).length - after.length =
            head.path.length + 1 := by
          rw [List.length_append, List.length_cons]
          omega
        rw [operand, braced, length]
        dsimp only
        rw [text]
        exact Or.inl rfl
    | @single _ _ _ head _ first read =>
      obtain ⟨text, shape⟩ := conditional_opening head first.text []
      dsimp only
      rw [shape]
      exact Or.inr (conditional_apart_span read span)
    | @double _ _ _ _ head _ _ first second read =>
      obtain ⟨text, shape⟩ := conditional_opening head first.text second.text
      dsimp only
      rw [shape]
      exact Or.inr (conditional_apart_span read span)

/-- What a brace outside of constructs stands for, and the notes after it. -/
def pass (inside : Reader) (offset : Nat) (rest : List Char) (notes : Notes) : Converted × Notes :=
  let (found, after) := inside offset rest notes
  match found with
  | some found => (found, after)
  | none =>
    (leftover rest, if (keptSpan rest).isSome then after.tell (.keptSpan offset) else after)

/-- The places in a source that the conversion comes to, and what is noted by then. -/
inductive Arrives (inside : Reader) (source : List Char) : Nat → List Char → Notes → Prop
  | start : Arrives inside source 0 source ⟨[], []⟩
  | char {offset : Nat} {c : Char} {rest : List Char} {notes : Notes} (notOpen : c ≠ '\x7b') :
      Arrives inside source offset (c :: rest) notes →
      Arrives inside source (offset + c.utf8Size) rest notes
  | brace {offset : Nat} {rest : List Char} {notes : Notes} :
      Arrives inside source offset ('\x7b' :: rest) notes →
      Arrives inside source
        (offset + 1 + byteSize (rest.take (pass inside offset rest notes).1.length))
        (rest.drop (pass inside offset rest notes).1.length) (pass inside offset rest notes).2

variable {source : List Char} {holds : Notes → Prop} {fit : Nat → List Char → Converted → Prop}
  {inside first second : Reader}

theorem pass_found (inside : Reader) (offset : Nat) (rest : List Char) (notes : Notes) :
    (pass inside offset rest notes).1 = (inside offset rest notes).1.getD (leftover rest) := by
  rw [pass]
  rcases inside offset rest notes with ⟨found, after⟩
  cases found <;> rfl

theorem arrives_place {offset : Nat} {cs : List Char} {notes : Notes}
    (arrives : Arrives inside source offset cs notes) : Place source offset cs := by
  induction arrives with
  | start => exact place_start source
  | char _ _ ih => exact place_cons ih
  | brace _ ih => exact place_drop ih _

theorem arrives_keeps (meets : Meets source holds fit inside)
    (told : ∀ {notes offset}, holds notes → holds (notes.tell (.keptSpan offset)))
    (start : holds ⟨[], []⟩) {offset : Nat} {cs : List Char} {notes : Notes}
    (arrives : Arrives inside source offset cs notes) : holds notes := by
  induction arrives with
  | start => exact start
  | char _ _ ih => exact ih
  | brace before ih =>
    have kept := meets.keeps (arrives_place before) ih
    rw [pass]
    split
    rename_i found after result
    rw [result] at kept
    split
    · exact kept
    · split
      · exact told kept
      · exact kept

def writtenFrom (inside : Reader) (offset : Nat) (cs : List Char) (notes : Notes) : List Char :=
  (segmentsFrom inside offset cs notes).1.flatMap Segment.written

theorem writtenFrom_char (inside : Reader) (offset : Nat) {c : Char} (notOpen : c ≠ '\x7b')
    (rest : List Char) (notes : Notes) :
    writtenFrom inside offset (c :: rest) notes =
      c :: writtenFrom inside (offset + c.utf8Size) rest notes := by
  rw [writtenFrom, segmentsFrom_char inside offset notOpen]
  rfl

theorem writtenFrom_brace (inside : Reader) (offset : Nat) (rest : List Char) (notes : Notes) :
    writtenFrom inside offset ('\x7b' :: rest) notes =
      (pass inside offset rest notes).1.text ++
        writtenFrom inside
          (offset + 1 + byteSize (rest.take (pass inside offset rest notes).1.length))
          (rest.drop (pass inside offset rest notes).1.length)
          (pass inside offset rest notes).2 := by
  rw [writtenFrom, segmentsFrom_brace, pass]
  rcases inside offset rest notes with ⟨found, after⟩
  cases found with
  | some found => rfl
  | none =>
    dsimp only
    rw [leftover]
    cases keptSpan rest <;> rfl

/-- What the first way to read constructs lets a brace stand for is told from what the second way
does by what is written. -/
def Alike (source : List Char) (first second : Reader) : Prop :=
  ∀ ⦃offset : Nat⦄ ⦃rest : List Char⦄ ⦃m : Notes⦄ (n : Notes),
    Arrives first source offset ('\x7b' :: rest) m →
    Coherent (pass first offset rest m).1 (pass second offset rest n).1

theorem pass_same (alike : Alike source first second) {offset : Nat} {rest : List Char}
    {m n : Notes} (arrives : Arrives first source offset ('\x7b' :: rest) m)
    (same : writtenFrom first offset ('\x7b' :: rest) m =
      writtenFrom second offset ('\x7b' :: rest) n) :
    (pass first offset rest m).1 = (pass second offset rest n).1 := by
  rcases alike n arrives with equal | apart
  · exact equal
  · rw [writtenFrom_brace, writtenFrom_brace] at same
    exact absurd same (apart _ _)

/-- If the same is written, then also from each place on that the conversion comes to. -/
theorem arrives_together (alike : Alike source first second)
    (same : writtenFrom first 0 source ⟨[], []⟩ = writtenFrom second 0 source ⟨[], []⟩)
    {offset : Nat} {cs : List Char} {m : Notes} (arrives : Arrives first source offset cs m) :
    ∃ n, writtenFrom first offset cs m = writtenFrom second offset cs n := by
  induction arrives with
  | start => exact ⟨_, same⟩
  | char notOpen _ ih =>
    obtain ⟨n, same⟩ := ih
    rw [writtenFrom_char _ _ notOpen, writtenFrom_char _ _ notOpen] at same
    exact ⟨n, (List.cons.inj same).2⟩
  | brace before ih =>
    obtain ⟨n, same⟩ := ih
    have equal := pass_same alike before same
    rw [writtenFrom_brace, writtenFrom_brace, ← equal] at same
    exact ⟨_, List.append_cancel_left same⟩

theorem written_of_passes
    (equal : ∀ offset rest m n, Arrives first source offset ('\x7b' :: rest) m →
      (pass first offset rest m).1 = (pass second offset rest n).1)
    {offset : Nat} {cs : List Char} {m : Notes} (n : Notes)
    (arrives : Arrives first source offset cs m) :
    writtenFrom first offset cs m = writtenFrom second offset cs n := by
  induction size : cs.length using Nat.strong_induction_on generalizing offset cs m n with
  | _ room ih =>
    cases cs with
    | nil => rw [writtenFrom, writtenFrom, segmentsFrom, segmentsFrom]
    | cons c rest =>
      rw [List.length_cons] at size
      by_cases opens : c = '\x7b'
      · subst opens
        have next := Arrives.brace arrives
        have shorter : (rest.drop (pass first offset rest m).1.length).length < room := by
          rw [List.length_drop]
          omega
        have later := ih _ shorter (pass second offset rest n).2 next rfl
        rw [writtenFrom_brace, writtenFrom_brace, later, equal offset rest m n arrives]
      · have later := ih _ (by omega) n (.char opens arrives) rfl
        rw [writtenFrom_char _ _ opens, writtenFrom_char _ _ opens, later]

/-- The same is written exactly if every brace that the first way comes to stands for the same when
it is read in the second way, provided that reading in the second way does not depend on what is
noted. -/
theorem written_same_iff (alike : Alike source first second)
    (steady : ∀ {offset rest} (m n : Notes), Place source offset ('\x7b' :: rest) →
      (second offset rest m).1 = (second offset rest n).1) :
    writtenFrom first 0 source ⟨[], []⟩ = writtenFrom second 0 source ⟨[], []⟩ ↔
      ∀ offset rest notes, Arrives first source offset ('\x7b' :: rest) notes →
        (pass first offset rest notes).1 = (pass second offset rest notes).1 := by
  have anyNotes : ∀ {offset rest} (m n : Notes), Place source offset ('\x7b' :: rest) →
      (pass second offset rest m).1 = (pass second offset rest n).1 := by
    intro offset rest m n place
    rw [pass_found, pass_found, steady m n place]
  constructor
  · intro same offset rest m arrives
    obtain ⟨n, sameHere⟩ := arrives_together alike same arrives
    rw [anyNotes m n (arrives_place arrives)]
    exact pass_same alike arrives sameHere
  · intro equal
    refine written_of_passes (fun offset rest m n arrives => ?_) _ .start
    rw [anyNotes n m (arrives_place arrives)]
    exact equal offset rest m arrives

end TitleTemplate.Legacy
