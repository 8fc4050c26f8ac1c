import TitleTemplate.Proofs.Value.Absence
import TitleTemplate.Session

/-!
What rendering reads of its context. A template looks at the values its paths lead to and at nothing
else, and it does not tell what is undefined from none: modifiers make alike values of alike values,
whatever comes later in their chain, and conditions and outputs give the same for both.
-/
namespace TitleTemplate

/-! The paths that occur in a template. -/

def Condition.paths : Condition → List (List String)
  | .truthy o _ | .compare o _ _ _ => [o.path]
  | .not inner _ => inner.paths
  | .and left right _ | .or left right _ => left.paths ++ right.paths

mutual

def Node.paths : Node → List (List String)
  | .literal _ _ => []
  | .output o _ => [o.path]
  | .conditional arms _ => arms.paths

def Arms.paths : Arms → List (List String)
  | .guarded guard body rest => guard.paths ++ (pathsWithin body ++ rest.paths)
  | .otherwise body => pathsWithin body
  | .done => []

def pathsWithin : List Node → List (List String)
  | [] => []
  | n :: ns => n.paths ++ pathsWithin ns

end

/-- A path leads to the same value in both contexts, where undefined and none count as the same at
every depth. -/
def SameAt (a b : Value) (path : List String) : Prop :=
  (a.lookup path).definite = (b.lookup path).definite

/-! Modifiers. -/

theorem value_mapM {α β : Type} (f : α → Logged β) (o : Option α) :
    (o.mapM f).value = o.map fun a => (f a).value := by
  cases o <;> rfl

theorem joinItems_definite (limit : Option Nat) (args items : List Value) :
    Modifier.joinItems limit args (items.map Value.definite) =
      Modifier.joinItems limit args items := by
  simp [Modifier.joinItems, Function.comp_def]

/-- A modifier does the same with a value and with its definite form, up to what is undefined. -/
theorem transform_definite (m : Modifier) (v : Value) (args : List Value) (limit : Option Nat) :
    (m.transform v.definite args limit).value.map Value.definite =
      (m.transform v args limit).value.map Value.definite := by
  cases m with
  | first | last =>
    simp only [Modifier.transform, Logged.value_pure, Value.items_definite]
    cases v.items? with
    | none => rfl
    | some items => simp [List.getLast?_map, Value.getD_definite]
  | sort =>
    simp only [Modifier.transform, Logged.value_pure, Value.items_definite]
    cases v.items? with
    | none => rfl
    | some items => simp [Value.definite, Value.definiteItems_eq_map, Value.sort_definite]
  | reverse =>
    simp only [Modifier.transform, Logged.value_pure, Value.items_definite,
      Value.scalarText_definite]
    cases v.items? with
    | none => rfl
    | some items => simp [Value.definite, Value.definiteItems_eq_map]
  | join =>
    simp only [Modifier.transform, value_mapM, Value.items_definite, Option.map_map,
      Function.comp_def, joinItems_definite]
  | _ => simp [Modifier.transform]

theorem transform_undefined (m : Modifier) (args : List Value) (limit : Option Nat) :
    (m.transform .undefined args limit).value = none := by
  cases m <;> rfl

theorem apply_known (m : Modifier) (v : Value) (args : List Value) (limit : Option Nat) :
    ((ModifierName.known m).apply v args limit).value =
      ((m.transform v args limit).value).getD .undefined := by
  simp only [ModifierName.apply]
  cases absent : v.isUndefined with
  | true =>
    cases v with
    | undefined => rw [transform_undefined]; rfl
    | _ => cases absent
  | false =>
    simp only [Bool.false_eq_true, ↓reduceIte, Logged.value_bind]
    cases (m.transform v args limit).value <;> rfl

theorem apply_definite (m : ModifierName) (v : Value) (args : List Value) (limit : Option Nat) :
    (m.apply v.definite args limit).value.definite = (m.apply v args limit).value.definite := by
  cases m with
  | unknown name => exact Value.definite_definite v
  | known m =>
    rw [apply_known, apply_known, ← Value.getD_definite, transform_definite, Value.getD_definite]

theorem evaluate_alike {a b : Scope} (limits : a.limit = b.limit) (o : Operand)
    (same : SameAt a.context b.context o.path) :
    (o.evaluate a).value.definite = (o.evaluate b).value.definite := by
  obtain ⟨path, calls⟩ := o
  simp only [SameAt] at same
  simp only [Operand.evaluate, ← limits]
  generalize a.context.lookup path = v at same
  generalize b.context.lookup path = w at same
  -- Every stage of the chain keeps the two values alike.
  induction calls generalizing v w with
  | nil => exact same
  | cons call calls ih =>
    rw [List.foldlM_cons, List.foldlM_cons, Logged.value_bind, Logged.value_bind]
    refine ih _ _ ?_
    rw [← apply_definite, same, apply_definite]

/-! Conditions and nodes. -/

theorem holds_alike {a b : Scope} (limits : a.limit = b.limit) (c : Condition)
    (same : ∀ path ∈ c.paths, SameAt a.context b.context path) :
    (c.holds a).value = (c.holds b).value := by
  induction c with
  | truthy o span =>
    have alike := evaluate_alike limits o (same o.path List.mem_cons_self)
    simp only [Condition.holds, Logged.value_bind, Logged.value_pure]
    rw [← Value.isTruthy_definite, alike, Value.isTruthy_definite]
  | compare o op literal span =>
    have alike := evaluate_alike limits o (same o.path List.mem_cons_self)
    simp only [Condition.holds, Logged.value_bind, Logged.value_pure]
    rw [← Value.holds_definite, alike, Value.holds_definite]
  | not inner span ih =>
    simp only [Condition.holds, Logged.value_bind, Logged.value_pure, ih same]
  | and left right span ihLeft ihRight =>
    have first := ihLeft fun path member => same path (List.mem_append_left _ member)
    have second := ihRight fun path member => same path (List.mem_append_right _ member)
    simp only [Condition.holds, Logged.value_bind, first]
    split
    · exact second
    · rfl
  | or left right span ihLeft ihRight =>
    have first := ihLeft fun path member => same path (List.mem_append_left _ member)
    have second := ihRight fun path member => same path (List.mem_append_right _ member)
    simp only [Condition.holds, Logged.value_bind, first]
    split
    · rfl
    · exact second

mutual

theorem node_render_alike {a b : Scope} (limits : a.limit = b.limit) (out : BoundedText) :
    ∀ n : Node, (∀ path ∈ n.paths, SameAt a.context b.context path) →
      (n.render a out).value = (n.render b out).value
  | .literal text span, _ => rfl
  | .output o span, same => by
    have alike := evaluate_alike limits o (same o.path List.mem_cons_self)
    rw [Node.render, Node.render, Logged.value_bind, Logged.value_bind, ← Value.display_definite,
      alike, Value.display_definite]
  | .conditional arms span, same => arms_render_alike limits out arms same

theorem arms_render_alike {a b : Scope} (limits : a.limit = b.limit) (out : BoundedText) :
    ∀ arms : Arms, (∀ path ∈ arms.paths, SameAt a.context b.context path) →
      (arms.render a out).value = (arms.render b out).value
  | .guarded guard body rest, same => by
    have asked := holds_alike limits guard fun path member =>
      same path (List.mem_append_left _ member)
    rw [Arms.render, Arms.render, Logged.value_bind, Logged.value_bind, asked]
    split
    · refine renderAll_alike limits out body fun path member => same path ?_
      exact List.mem_append_right _ (List.mem_append_left _ member)
    · refine arms_render_alike limits out rest fun path member => same path ?_
      exact List.mem_append_right _ (List.mem_append_right _ member)
  | .otherwise body, same => renderAll_alike limits out body same
  | .done, _ => rfl

theorem renderAll_alike {a b : Scope} (limits : a.limit = b.limit) (out : BoundedText) :
    ∀ ns : List Node, (∀ path ∈ pathsWithin ns, SameAt a.context b.context path) →
      (renderAll a out ns).value = (renderAll b out ns).value
  | [], _ => rfl
  | n :: ns, same => by
    have first := node_render_alike limits out n fun path member =>
      same path (List.mem_append_left _ member)
    have later : ∀ path ∈ pathsWithin ns, SameAt a.context b.context path := fun path member =>
      same path (List.mem_append_right _ member)
    rw [renderAll, renderAll]
    split
    · rfl
    · rw [Logged.value_bind, Logged.value_bind, first]
      exact renderAll_alike limits _ ns later

end

/-- Two contexts in which the paths of a template lead to the same values render it alike, where
undefined and none count as the same. So it makes no difference whether a context whose numbers JSON
can hold has gone through JSON. -/
theorem rendering_reads_only_paths (t : Template) :
    (∀ a b : Value, (∀ path ∈ pathsWithin t.nodes, SameAt a b path) →
      (t.render a).value = (t.render b).value) ∧
    ∀ data : Value, data.isHeld = true →
      (t.render data.throughJson).value = (t.render data).value := by
  have alike : ∀ a b : Value, (∀ path ∈ pathsWithin t.nodes, SameAt a b path) →
      (t.render a).value = (t.render b).value := by
    intro a b same
    have limits : (Scope.mk a (some t.limits.output)).limit =
        (Scope.mk b (some t.limits.output)).limit := rfl
    exact congrArg BoundedText.text (renderAll_alike limits _ t.nodes same)
  constructor
  · exact alike
  · intro data held
    refine alike _ _ fun path _ => ?_
    rw [SameAt, Value.throughJson_of_held data held, Value.lookup_definite]

/-- An item that is undefined and one that is none, a key that is missing and one that leads to
none. -/
theorem rendering_reads_only_paths_missing :
    let items : Operand := ⟨["a"], [⟨.known .sort, []⟩, ⟨.known .join, []⟩]⟩
    let flag : Condition := .not (.truthy ⟨["b"], []⟩ default) default
    let t : Template := ⟨"", [.output items default,
      .conditional (.guarded flag [.literal "!" default] .done) default], .default⟩
    let a : Value := .map [("a", .seq [.str "x", .undefined])]
    let b : Value := .map [("a", .seq [.str "x", .none]), ("b", .none)]
    (∀ path ∈ pathsWithin t.nodes, SameAt a b path) ∧ (t.render a).value = (t.render b).value ∧
      a.isHeld = true ∧ (t.render a.throughJson).value = (t.render a).value := by
  intro items flag t a b
  have same : ∀ path ∈ pathsWithin t.nodes, SameAt a b path := by
    have paths : pathsWithin t.nodes = [["a"], ["b"]] := rfl
    intro path member
    have one : path = ["a"] ∨ path = ["b"] := by simpa [paths] using member
    rcases one with rfl | rfl <;> rfl
  have held : a.isHeld = true := rfl
  exact ⟨same, (rendering_reads_only_paths t).1 a b same, held,
    (rendering_reads_only_paths t).2 a held⟩

end TitleTemplate
