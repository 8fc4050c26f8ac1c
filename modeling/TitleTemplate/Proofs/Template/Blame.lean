import TitleTemplate.Proofs.Template.Conditions

/-!
What the readers of an expression report. A fault is the lexical one that ends the lexemes, or it
is laid on the whole expression, or it is a word that was read and is no path; nothing else is to
blame, and no reader speaks of a conditional that is left open.
-/
namespace TitleTemplate

theorem bind_eq_error {ε α β : Type} {x : Except ε α} {f : α → Except ε β} {e : ε} :
    (x >>= f) = .error e ↔ x = .error e ∨ ∃ a, x = .ok a ∧ f a = .error e := by
  cases x <;> simp [bind, Except.bind]

namespace Reading

/-- The faults that reading some lexemes can end in. -/
inductive Reports (r : Reading) (ls : List (Lexeme × Span)) : Fault → Prop
  | lexical {fault : Fault} (ends : r.fault = some fault) : Reports r ls fault
  | whole {cause : Cause} (inside : cause ≠ .unclosed) (own : ∀ f, cause ≠ .lexical f) :
      Reports r ls ⟨cause, r.whole⟩
  | word {raw : String} {span : Span} (member : (.word raw, span) ∈ ls) :
      Reports r ls ⟨.invalidPath raw, span⟩

variable {r : Reading} {ls ms : List (Lexeme × Span)} {fault : Fault}

theorem Reports.mono (reports : r.Reports ms fault) (part : ms ⊆ ls) : r.Reports ls fault := by
  cases reports with
  | lexical ends => exact .lexical ends
  | whole inside own => exact .whole inside own
  | word member => exact .word (part member)

theorem Reports.rest (taken : List (Lexeme × Span)) (reports : r.Reports ms fault)
    (shape : ls = taken ++ ms) : r.Reports ls fault :=
  reports.mono (shape ▸ List.subset_append_right taken ms)

theorem atEnd_reports (expected : Expected) : r.Reports ls (r.atEnd expected) := by
  unfold atEnd
  cases ends : r.fault with
  | none => exact .whole (by simp) (by simp)
  | some fault => exact .lexical ends

theorem unexpected_reports (found : Lexeme) (expected : Expected) :
    r.Reports ls (r.unexpected found expected) := .whole (by simp) (by simp)

theorem literal_reports {expected : Expected} {l : Lexeme}
    (failed : r.literal expected l = .error fault) : r.Reports ls fault := by
  cases l with
  | word | text => cases failed
  | _ =>
    obtain rfl := Except.error.inj failed
    exact unexpected_reports _ expected

theorem path_reports (failed : r.path ls = .error fault) : r.Reports ls fault := by
  unfold path at failed
  split at failed
  · obtain rfl := Except.error.inj failed
    exact atEnd_reports .path
  · dsimp only at failed
    split at failed
    · cases failed
    · obtain rfl := Except.error.inj failed
      exact .word List.mem_cons_self
  · obtain rfl := Except.error.inj failed
    exact unexpected_reports _ .path

theorem arguments_reports {first : Bool} (failed : r.arguments first ls = .error fault) :
    r.Reports ls fault := by
  fun_induction arguments r first ls with
  | case1 | case4 =>
    obtain rfl := Except.error.inj failed
    exact atEnd_reports _
  | case2 => cases failed
  | case3 found _ rest _ ih | case5 _ found _ rest ih =>
    rcases bind_eq_error.1 failed with literal | ⟨value, _, later⟩
    · exact literal_reports literal
    · rcases bind_eq_error.1 later with others | ⟨_, _, done⟩
      · exact (ih others).mono fun l member => by simp [member]
      · cases done
  | case6 =>
    obtain rfl := Except.error.inj failed
    exact unexpected_reports _ _

theorem modifier_reports (failed : r.modifier ls = .error fault) : r.Reports ls fault := by
  unfold modifier at failed
  split at failed
  · obtain rfl := Except.error.inj failed
    exact atEnd_reports _
  · rename_i name span opened rest
    rcases bind_eq_error.1 failed with arguments | ⟨_, _, done⟩
    · exact (arguments_reports arguments).rest [(.word name, span), (.parenOpen, opened)] rfl
    · cases done
  · cases failed
  · obtain rfl := Except.error.inj failed
    exact unexpected_reports _ _

theorem modifiers_reports {stop : Position} (failed : r.modifiers stop ls = .error fault) :
    r.Reports ls fault := by
  fun_induction modifiers r stop ls with
  | case1 stop bar rest other called =>
    obtain rfl := Except.error.inj failed
    exact (modifier_reports called).mono (List.subset_cons_self _ rest)
  | case2 stop bar rest call called ih =>
    obtain ⟨taken, shape, _⟩ := modifier_sound called
    rcases bind_eq_error.1 failed with others | ⟨_, _, done⟩
    · exact ((ih others).rest _ shape).mono (List.subset_cons_self _ rest)
    · cases done
  | case3 => cases failed

theorem operand_reports (failed : r.operand ls = .error fault) : r.Reports ls fault := by
  rcases bind_eq_error.1 failed with unnamed | ⟨path, named, later⟩
  · exact path_reports unnamed
  · obtain ⟨raw, span, shape, _⟩ := path_sound named
    rcases bind_eq_error.1 later with calls | ⟨_, _, done⟩
    · exact (modifiers_reports calls).rest [(.word raw, span)] shape
    · cases done

theorem atom_reports (failed : r.atom ls = .error fault) : r.Reports ls fault := by
  rcases bind_eq_error.1 failed with operand | ⟨left, _, later⟩
  · exact operand_reports operand
  · split at later
    · obtain rfl := Except.error.inj later
      exact atEnd_reports _
    · rcases bind_eq_error.1 later with literal | ⟨_, _, done⟩
      · exact literal_reports literal
      · cases done
    · cases later

theorem unary_reports {depth : Nat} (failed : r.unary depth ls = .error fault) :
    r.Reports ls fault := by
  fun_induction unary r depth ls with
  | case1 =>
    obtain rfl := Except.error.inj failed
    exact .whole (by simp) (by simp)
  | case2 depth span rest shallow ih =>
    rcases bind_eq_error.1 failed with inner | ⟨_, _, done⟩
    · exact (ih inner).mono (List.subset_cons_self _ rest)
    · cases done
  | case3 | case4 => exact atom_reports failed

theorem andChain_reports {begin : Position} {left : Read Condition}
    (failed : r.andChain begin left = .error fault) : r.Reports left.rest fault := by
  fun_induction andChain r begin left with
  | case1 left word rest other read here =>
    obtain rfl := Except.error.inj failed
    exact (unary_reports read).rest [(.word "and", word)] here
  | case2 left word rest right read here ih =>
    obtain ⟨taken, _, shape, _⟩ := unary_sound read
    refine (ih failed).rest ((.word "and", word) :: taken) ?_
    rw [here, shape]
    rfl
  | case3 | case4 => cases failed

theorem conjunction_reports (failed : r.conjunction ls = .error fault) : r.Reports ls fault := by
  rcases bind_eq_error.1 failed with first | ⟨left, first, later⟩
  · exact unary_reports first
  · obtain ⟨taken, _, shape, _⟩ := unary_sound first
    exact (andChain_reports later).rest _ shape

theorem orChain_reports {begin : Position} {left : Read Condition}
    (failed : r.orChain begin left = .error fault) : r.Reports left.rest fault := by
  fun_induction orChain r begin left with
  | case1 left word rest other read here =>
    obtain rfl := Except.error.inj failed
    exact (conjunction_reports read).rest [(.word "or", word)] here
  | case2 left word rest right read here ih =>
    obtain ⟨taken, _, shape, _⟩ := conjunction_sound read
    refine (ih failed).rest ((.word "or", word) :: taken) ?_
    rw [here, shape]
    rfl
  | case3 | case4 => cases failed

theorem disjunction_reports (failed : r.disjunction ls = .error fault) : r.Reports ls fault := by
  rcases bind_eq_error.1 failed with first | ⟨left, first, later⟩
  · exact conjunction_reports first
  · obtain ⟨taken, _, shape, _⟩ := conjunction_sound first
    exact (orChain_reports later).rest _ shape

theorem complete_reports {α : Type} {read : Read α} (failed : r.complete read = .error fault) :
    r.Reports ls fault := by
  unfold complete at failed
  split at failed
  · obtain rfl := Except.error.inj failed
    exact unexpected_reports _ _
  · rename_i ends
    obtain rfl := Except.error.inj failed
    exact .lexical ends
  · cases failed

theorem output_reports (failed : r.output ls = .error fault) : r.Reports ls fault := by
  rcases bind_eq_error.1 failed with operand | ⟨read, _, later⟩
  · exact operand_reports operand
  · exact complete_reports later

theorem condition_reports (failed : r.condition ls = .error fault) : r.Reports ls fault := by
  simp only [condition] at failed
  split at failed
  · obtain rfl := Except.error.inj failed
    exact .whole (by simp) (by simp)
  rcases bind_eq_error.1 failed with disjunction | ⟨read, _, later⟩
  · exact disjunction_reports disjunction
  · exact complete_reports later

theorem guarded_reports {keyword : String} (failed : r.guarded keyword ls = .error fault) :
    r.Reports ls fault := by
  unfold guarded at failed
  split at failed
  · rename_i ends
    obtain rfl := Except.error.inj failed
    exact .lexical ends
  · obtain rfl := Except.error.inj failed
    exact .whole (by simp) (by simp)
  · exact (condition_reports failed).mono (List.drop_subset 1 ls)

end Reading
end TitleTemplate
