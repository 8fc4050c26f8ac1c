import TitleTemplate.Proofs.Template.Rendering

/-!
Nodes that are put after nodes. Texts that meet become one literal, and nothing else changes, so it
does not matter in which order several runs of nodes are put together. What is read of a template
is added in this way to the place that is being read.
-/
namespace TitleTemplate

def joined : List Node → List Node → List Node
  | [], ms => ms
  | [.literal a s], .literal b t :: ms => .literal (a ++ b) (s.upTo t.stop) :: ms
  | n :: ns, ms => n :: joined ns ms

def Node.isLiteral : Node → Bool
  | .literal _ _ => true
  | .output _ _ | .conditional _ _ => false

theorem literal_or_other (n : Node) :
    (∃ text span, n = .literal text span) ∨ n.isLiteral = false := by
  cases n with
  | literal text span => exact Or.inl ⟨text, span, rfl⟩
  | output => exact Or.inr rfl
  | conditional => exact Or.inr rfl

@[simp] theorem nil_joined (ms : List Node) : joined [] ms = ms := rfl

theorem cons_joined {n : Node} (other : n.isLiteral = false) (ns ms : List Node) :
    joined (n :: ns) ms = n :: joined ns ms := by
  cases n with
  | literal => cases other
  | output => cases ns <;> rfl
  | conditional => cases ns <;> rfl

theorem cons_cons_joined (n m : Node) (ns ms : List Node) :
    joined (n :: m :: ns) ms = n :: joined (m :: ns) ms := by
  cases n <;> rfl

theorem literal_joined {text : String} {span : Span} {m : Node} (other : m.isLiteral = false)
    (ms : List Node) : joined [.literal text span] (m :: ms) = .literal text span :: m :: ms := by
  cases m with
  | literal => cases other
  | output => rfl
  | conditional => rfl

@[simp] theorem joined_nil (ns : List Node) : joined ns [] = ns := by
  induction ns with
  | nil => rfl
  | cons n ns ih =>
    cases ns with
    | nil => cases n <;> rfl
    | cons m ns => rw [cons_cons_joined, ih]

theorem joined_ne_nil {ns : List Node} (some : ns ≠ []) (ms : List Node) : joined ns ms ≠ [] := by
  cases ns with
  | nil => exact absurd rfl some
  | cons n ns =>
    cases ns with
    | nil =>
      cases n with
      | literal =>
        cases ms with
        | nil => simp
        | cons m ms => cases m <;> simp [joined]
      | output => simp [joined]
      | conditional => simp [joined]
    | cons m ns => simp [cons_cons_joined]

theorem cons_of_ne_nil_joined (n : Node) {ns : List Node} (some : ns ≠ []) (ms : List Node) :
    joined (n :: ns) ms = n :: joined ns ms := by
  cases ns with
  | nil => exact absurd rfl some
  | cons m ns => exact cons_cons_joined n m ns ms

theorem append_joined (ks : List Node) {ns : List Node} (some : ns ≠ []) (ms : List Node) :
    joined (ks ++ ns) ms = ks ++ joined ns ms := by
  induction ks with
  | nil => rfl
  | cons k ks ih =>
    rw [List.cons_append, cons_of_ne_nil_joined k (by simp [some]), ih, List.cons_append]

theorem literal_joined_assoc (text : String) (span : Span) (ns ms : List Node) :
    joined (joined [.literal text span] ns) ms = joined [.literal text span] (joined ns ms) := by
  cases ns with
  | nil => rw [joined_nil, nil_joined]
  | cons n ns =>
    rcases literal_or_other n with ⟨b, t, rfl⟩ | other
    · cases ns with
      | cons n ns => rw [cons_cons_joined, joined, joined, cons_cons_joined]
      | nil =>
        cases ms with
        | nil => rw [joined_nil, joined_nil]
        | cons m ms => cases m <;> simp [joined, String.append_assoc, Span.upTo]
    · rw [literal_joined other, cons_cons_joined, cons_joined other, literal_joined other]

/-- Seams do not touch each other, unless all that is between them is one text. -/
theorem joined_assoc (ks ns ms : List Node) :
    joined (joined ks ns) ms = joined ks (joined ns ms) := by
  induction ks with
  | nil => rfl
  | cons k ks ih =>
    by_cases some : ks = []
    · subst some
      rcases literal_or_other k with ⟨text, span, rfl⟩ | other
      · exact literal_joined_assoc text span ns ms
      · rw [cons_joined other, cons_joined other, cons_joined other, ih]
    · have more := joined_ne_nil some ns
      rw [cons_of_ne_nil_joined k some, cons_of_ne_nil_joined k some,
        cons_of_ne_nil_joined k more, ih]

theorem joined_single {n : Node} (other : n.isLiteral = false) (ns : List Node) :
    joined ns [n] = ns ++ [n] := by
  induction ns with
  | nil => rfl
  | cons m ns ih =>
    by_cases some : ns = []
    · subst some
      cases m with
      | literal => exact literal_joined other []
      | output => rfl
      | conditional => rfl
    · rw [cons_of_ne_nil_joined m some, ih, List.cons_append]

theorem joined_text (text : List Char) (span : Span) (body : List Node) :
    joined body.reverse [.literal (String.ofList text) span] =
      (appendText text span body).reverse := by
  cases body with
  | nil => rfl
  | cons n body =>
    rw [List.reverse_cons, append_joined body.reverse (by simp)]
    cases n <;> simp [appendText, joined]

theorem shownAll_joined (scope : Scope) (ns ms : List Node) :
    shownAll scope (joined ns ms) = shownAll scope ns ++ shownAll scope ms := by
  induction ns with
  | nil => rw [nil_joined, shownAll, String.empty_append]
  | cons n ns ih =>
    by_cases some : ns = []
    · subst some
      rcases literal_or_other n with ⟨text, span, rfl⟩ | other
      · cases ms with
        | nil => simp [shownAll]
        | cons m ms => cases m <;> simp [joined, shownAll, Node.shown, String.append_assoc]
      · rw [cons_joined other, shownAll, ih, ← String.append_assoc, ← shownAll]
    · rw [cons_of_ne_nil_joined n some, shownAll, ih, ← String.append_assoc, ← shownAll]

theorem rendered_joined (scope : Scope) (ns ms : List Node) :
    rendered scope (joined ns ms) = rendered scope ns ++ rendered scope ms := by
  rw [rendered_eq_shownAll, rendered_eq_shownAll, rendered_eq_shownAll, shownAll_joined]

def Progress.add (p : Progress) (ns : List Node) : Progress :=
  p.modifyBody fun body => (joined body.reverse ns).reverse

theorem add_nil (p : Progress) : p.add [] = p := by
  obtain ⟨nodes, blocks⟩ := p
  cases blocks <;> simp [Progress.add, Progress.modifyBody]

theorem add_add (p : Progress) (ns ms : List Node) :
    (p.add ns).add ms = p.add (joined ns ms) := by
  unfold Progress.add
  rw [modifyBody_modifyBody]
  refine congrArg p.modifyBody (funext fun body => ?_)
  rw [List.reverse_reverse, joined_assoc]

theorem add_text (p : Progress) (text : List Char) (span : Span) :
    p.add [.literal (String.ofList text) span] = p.modifyBody (appendText text span) := by
  refine congrArg p.modifyBody (funext fun body => ?_)
  rw [joined_text, List.reverse_reverse]

theorem add_single (p : Progress) {n : Node} (other : n.isLiteral = false) :
    p.add [n] = p.modifyBody (n :: ·) := by
  refine congrArg p.modifyBody (funext fun body => ?_)
  rw [joined_single other]
  simp

end TitleTemplate
