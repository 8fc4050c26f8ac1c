import TitleTemplate.Proofs.Template.Outline
import TitleTemplate.Template.Render

/-!
What templates render to. Rendering looks at no position, and into an output without a limit every
node writes its own text after what is there already. So the text of a template is put together
from the texts of its nodes, and whether texts that follow each other are one literal or several
makes no difference.
-/
namespace TitleTemplate

theorem holds_relocate (f : Position → Position) (scope : Scope) (c : Condition) :
    (c.relocate f).holds scope = c.holds scope := by
  induction c with
  | truthy operand span => rfl
  | compare left op right span => rfl
  | not inner span ih => simp only [Condition.relocate, Condition.holds, ih]
  | and left right span ihLeft ihRight =>
    simp only [Condition.relocate, Condition.holds, ihLeft, ihRight]
  | or left right span ihLeft ihRight =>
    simp only [Condition.relocate, Condition.holds, ihLeft, ihRight]

mutual

theorem node_render_relocate (f : Position → Position) (scope : Scope) (out : BoundedText) :
    ∀ n : Node, (n.relocate f).render scope out = n.render scope out
  | .literal text span => rfl
  | .output operand span => rfl
  | .conditional arms span => by
    simp only [Node.relocate, Node.render]
    exact arms_render_relocate f scope out arms

theorem arms_render_relocate (f : Position → Position) (scope : Scope) (out : BoundedText) :
    ∀ arms : Arms, (arms.relocate f).render scope out = arms.render scope out
  | .guarded guard body rest => by
    simp only [Arms.relocate, Arms.render, holds_relocate,
      renderAll_relocate f scope out body, arms_render_relocate f scope out rest]
  | .otherwise body => renderAll_relocate f scope out body
  | .done => rfl

theorem renderAll_relocate (f : Position → Position) (scope : Scope) (out : BoundedText) :
    ∀ ns : List Node, renderAll scope out (relocateNodes f ns) = renderAll scope out ns
  | [] => rfl
  | n :: ns => by
    simp only [relocateNodes, renderAll, node_render_relocate f scope out n,
      fun out => renderAll_relocate f scope out ns]

end

mutual

def Node.shown (scope : Scope) : Node → String
  | .literal text _ => text
  | .output operand _ => (operand.evaluate scope).value.display
  | .conditional arms _ => arms.shown scope

def Arms.shown (scope : Scope) : Arms → String
  | .guarded guard body rest =>
    if (guard.holds scope).value then shownAll scope body else rest.shown scope
  | .otherwise body => shownAll scope body
  | .done => ""

def shownAll (scope : Scope) : List Node → String
  | [] => ""
  | n :: ns => n.shown scope ++ shownAll scope ns

end

theorem write_unlimited (before text : String) :
    (BoundedText.write ⟨before, none, false⟩ text).value = ⟨before ++ text, none, false⟩ := rfl

mutual

theorem node_render_unlimited (scope : Scope) (before : String) :
    ∀ n : Node, (n.render scope ⟨before, none, false⟩).value =
      ⟨before ++ n.shown scope, none, false⟩
  | .literal text span => by rw [Node.render, Node.shown, write_unlimited]
  | .output operand span => by
    rw [Node.render, Logged.value_bind, Node.shown, write_unlimited]
  | .conditional arms span => by
    rw [Node.render, Node.shown]
    exact arms_render_unlimited scope before arms

theorem arms_render_unlimited (scope : Scope) (before : String) :
    ∀ arms : Arms, (arms.render scope ⟨before, none, false⟩).value =
      ⟨before ++ arms.shown scope, none, false⟩
  | .guarded guard body rest => by
    rw [Arms.render, Logged.value_bind, Arms.shown]
    split
    · exact renderAll_unlimited scope before body
    · exact arms_render_unlimited scope before rest
  | .otherwise body => by
    rw [Arms.render, Arms.shown]
    exact renderAll_unlimited scope before body
  | .done => by
    rw [Arms.render, Arms.shown, Logged.value_pure, String.append_empty]

theorem renderAll_unlimited (scope : Scope) (before : String) :
    ∀ ns : List Node, (renderAll scope ⟨before, none, false⟩ ns).value =
      ⟨before ++ shownAll scope ns, none, false⟩
  | [] => by
    rw [renderAll, shownAll, Logged.value_pure, String.append_empty]
  | n :: ns => by
    rw [renderAll, if_neg Bool.false_ne_true, Logged.value_bind,
      node_render_unlimited scope before n, renderAll_unlimited scope _ ns, shownAll,
      String.append_assoc]

end

def rendered (scope : Scope) (ns : List Node) : String :=
  (renderAll scope (BoundedText.empty none) ns).value.text

theorem rendered_eq_shownAll (scope : Scope) (ns : List Node) :
    rendered scope ns = shownAll scope ns := by
  rw [rendered, BoundedText.empty, renderAll_unlimited]
  exact String.empty_append

theorem rendered_relocate (f : Position → Position) (scope : Scope) (ns : List Node) :
    rendered scope (relocateNodes f ns) = rendered scope ns := by
  rw [rendered, renderAll_relocate]
  rfl

theorem shownAll_append (scope : Scope) (ns ms : List Node) :
    shownAll scope (ns ++ ms) = shownAll scope ns ++ shownAll scope ms := by
  induction ns with
  | nil =>
    rw [shownAll]
    exact String.empty_append.symm
  | cons n ns ih => rw [List.cons_append, shownAll, shownAll, ih, String.append_assoc]

theorem shownAll_pushNode (scope : Scope) (body : List Node) (n : Node) :
    shownAll scope (pushNode body n).reverse = shownAll scope (body.reverse ++ [n]) := by
  cases n with
  | output operand span => simp only [pushNode, List.reverse_cons]
  | conditional arms span => simp only [pushNode, List.reverse_cons]
  | literal text span =>
    rw [pushNode]
    cases body with
    | nil => simp [appendText, shownAll, Node.shown]
    | cons b body =>
      cases b with
      | literal before first =>
        simp only [appendText, String.ofList_toList, List.reverse_cons, List.append_assoc,
          shownAll_append, List.singleton_append, shownAll, Node.shown, String.append_empty]
      | output operand first => simp [appendText, shownAll_append, shownAll, Node.shown]
      | conditional arms first => simp [appendText, shownAll_append, shownAll, Node.shown]

theorem shownAll_pushNodes (scope : Scope) (ns body : List Node) :
    shownAll scope (pushNodes ns body).reverse = shownAll scope (body.reverse ++ ns) := by
  induction ns generalizing body with
  | nil => rw [List.append_nil]; rfl
  | cons n ns ih =>
    have next : pushNodes (n :: ns) body = pushNodes ns (pushNode body n) := rfl
    rw [next, ih, shownAll_append, shownAll_pushNode, ← shownAll_append, List.append_assoc]
    rfl

theorem rendered_merged (scope : Scope) (ns : List Node) :
    rendered scope (merged ns) = shownAll scope ns := by
  rw [rendered_eq_shownAll, merged, shownAll_pushNodes]
  rfl

end TitleTemplate
