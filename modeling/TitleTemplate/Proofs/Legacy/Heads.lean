import TitleTemplate.Proofs.Legacy.Places
import TitleTemplate.Proofs.Template.Words
import TitleTemplate.Template.Render

/-!
What the head of a construct means, and that it is written so. A head names a value by a path and
the modifiers it goes through, and asks something of it; the expression that is written for the head
is read back as this operand or as this condition.
-/
namespace TitleTemplate.Legacy

def literalValue (text : List Char) : Value :=
  if (literalOfWord (String.ofList text)).isNumber then literalOfWord (String.ofList text)
  else .str (String.ofList text)

def Argument.value : Argument → Value
  | .quoted text => .str (String.ofList text)
  | .bare text => literalValue text

def Step.call (s : Step) : ModifierCall :=
  ⟨.ofString (String.ofList s.name), (s.arguments.getD []).map Argument.value⟩

def Head.target (h : Head) : Operand :=
  ⟨(splitAtChar '.' h.path).map String.ofList, h.steps.map Step.call⟩

def Head.guard (h : Head) : Condition :=
  match h.check with
  | none | some .truthy => .truthy h.target default
  | some .falsy => .not (.truthy h.target default) default
  | some (.compare op literal) => .compare h.target op (literalValue literal) default

def Head.accepts (h : Head) (v : Value) : Bool :=
  match h.check with
  | none | some .truthy => v.isTruthy
  | some .falsy => !v.isTruthy
  | some (.compare op literal) => op.holds v (literalValue literal)

theorem guard_holds (h : Head) (scope : Scope) :
    (h.guard.holds scope).value = h.accepts (h.target.evaluate scope).value := by
  unfold Head.guard Head.accepts
  split <;> rfl

def Step.Named (s : Step) : Prop := s.name ≠ [] ∧ ∀ c ∈ s.name, isStepChar c = true

/-- A head that can be written: what reading a head gives. -/
structure Head.Written (h : Head) : Prop where
  path : (splitAtChar '.' h.path).all isSegment = true
  steps : ∀ s ∈ h.steps, s.Named

theorem readStep_name {cs rest : List Char} {s : Step} (read : readStep cs = some (s, rest)) :
    s.name = cs.takeWhile isStepChar := by
  simp only [readStep] at read
  split at read
  · obtain ⟨_, _, same⟩ := Option.map_eq_some_iff.1 read
    obtain ⟨rfl, _⟩ := Prod.mk.inj same
    rfl
  · obtain ⟨rfl, _⟩ := Prod.mk.inj (Option.some.inj read)
    rfl

theorem readSteps_names {cs rest : List Char} {ss : List Step} {check : Option Check}
    (read : readSteps cs = some (ss, check, rest)) :
    ∀ s ∈ ss, s.Named := by
  fun_induction readSteps cs generalizing ss check rest with
  | case1 cs op after found =>
    obtain ⟨⟨literal, tail⟩, _, closed⟩ := Option.bind_eq_some_iff.1 read
    simp [(closing_parts closed).1]
  | case2 | case4 => cases read
  | case3 => simp [(closing_parts read).1]
  | case5 cs _ name some _ s after stepRead =>
    rename_i ih
    obtain ⟨⟨others, c, tail⟩, later, same⟩ := Option.map_eq_some_iff.1 read
    obtain ⟨rfl, _⟩ := Prod.mk.inj same
    have named := readStep_name stepRead
    intro t member
    rcases List.mem_cons.1 member with rfl | member
    · rw [Step.Named, named]
      exact ⟨some, fun c inside => List.mem_takeWhile_imp inside⟩
    · exact ih later t member
  | case6 =>
    obtain ⟨rfl, _⟩ := Prod.mk.inj (Option.some.inj read)
    simp

theorem written_of_read {cs rest : List Char} {head : Head}
    (read : Head.read cs = some (head, rest)) : head.Written := by
  simp only [Head.read] at read
  split at read
  · rename_i path
    obtain ⟨⟨ss, check, tail⟩, steps, same⟩ := Option.map_eq_some_iff.1 read
    obtain ⟨rfl, _⟩ := Prod.mk.inj same
    exact ⟨path, readSteps_names steps⟩
  · cases read

theorem path_word {h : Head} (written : h.Written) :
    h.path ≠ [] ∧ ∀ c ∈ h.path, isWordChar c = true :=
  word_of_segments written.path

end TitleTemplate.Legacy
