import TitleTemplate.Template.Expression

/-!
What a template asks of the limit on its depth. Two things are counted: how many conditionals stand
in each other, and how many words `not` stand in front of each other in a condition. What is read
under a limit is either what is read without one, or a fault of depth.
-/
namespace TitleTemplate

def Condition.leading : Condition → Nat
  | .not inner _ => inner.leading + 1
  | .truthy .. | .compare .. | .and .. | .or .. => 0

def Condition.negations : Condition → Nat
  | .truthy .. | .compare .. => 0
  | .not inner _ => max (inner.leading + 1) inner.negations
  | .and left right _ | .or left right _ => max left.negations right.negations

mutual

def Node.nesting : Node → Nat
  | .literal .. | .output .. => 0
  | .conditional arms _ => arms.nesting + 1

def Arms.nesting : Arms → Nat
  | .guarded _ body rest => max (nestingWithin body) rest.nesting
  | .otherwise body => nestingWithin body
  | .done => 0

def nestingWithin : List Node → Nat
  | [] => 0
  | n :: ns => max n.nesting (nestingWithin ns)

end

mutual

def Node.guards : Node → List Condition
  | .literal .. | .output .. => []
  | .conditional arms _ => arms.guards

def Arms.guards : Arms → List Condition
  | .guarded guard body rest => guard :: (guardsWithin body ++ rest.guards)
  | .otherwise body => guardsWithin body
  | .done => []

def guardsWithin : List Node → List Condition
  | [] => []
  | n :: ns => n.guards ++ guardsWithin ns

end

/-- The least limit that a template can be read with. A condition stands at depth one itself, and
goes one deeper with every `not`. -/
def leastDepth (ns : List Node) : Nat :=
  if nestingWithin ns = 0 then 0
  else max (nestingWithin ns) (1 + ((guardsWithin ns).map Condition.negations).foldr max 0)

/-- Whether a limit is kept by so many conditionals in each other, where `depth` are open already,
and by the conditions in them. -/
structure Keeps (limit depth nesting : Nat) (guards : List Condition) : Prop where
  blocks : depth + nesting ≤ limit
  guards : ∀ c ∈ guards, c.negations < limit

section Kept
variable {α β : Type} {kept more : Prop} {x y z : Except Fault α}

/-- One result is another as long as something is kept, and a fault of depth when it is not. -/
structure EqWhen (kept : Prop) (x y : Except Fault α) : Prop where
  same : kept → x = y
  tooDeep : ¬kept → ∃ fault, x = .error fault ∧ fault.kind = .tooDeep

theorem eqWhen_refl (holds : kept) (x : Except Fault α) : EqWhen kept x x :=
  ⟨fun _ => rfl, fun broken => absurd holds broken⟩

theorem eqWhen_trans (first : EqWhen kept x y) (second : kept → EqWhen more y z) :
    EqWhen (kept ∧ more) x z := by
  constructor
  · rintro ⟨holds, later⟩
    rw [first.same holds, (second holds).same later]
  · intro broken
    by_cases holds : kept
    · rw [first.same holds]
      exact (second holds).tooDeep fun later => broken ⟨holds, later⟩
    · exact first.tooDeep holds

theorem eqWhen_bind (first : EqWhen kept x y) (next : α → Except Fault β) :
    EqWhen kept (x >>= next) (y >>= next) := by
  constructor
  · intro holds
    rw [first.same holds]
  · intro broken
    obtain ⟨fault, refused, kind⟩ := first.tooDeep broken
    exact ⟨fault, by rw [refused]; rfl, kind⟩

theorem eqWhen_of_iff (same : more ↔ kept) (known : EqWhen kept x y) : EqWhen more x y := by
  rwa [propext same]

end Kept
end TitleTemplate
