import TitleTemplate.Proofs.Template.Rendering
import TitleTemplate.Proofs.Text.Cut

/-!
What a limit of the output does. At every moment a limited output holds the cut of what would have
been written without the limit, and it is full just when that does not fit. A single write keeps
this, wherever the border between two writes lies, and so does rendering, which stops early only
when nothing more can be added.
-/
namespace TitleTemplate

def BoundedText.limited (limit : Nat) (text : String) : BoundedText :=
  ⟨cutString limit text, some limit, decide (limit < text.utf8ByteSize)⟩

theorem limited_append_of_full {limit : Nat} {text : String}
    (full : (BoundedText.limited limit text).full = true) (more : String) :
    BoundedText.limited limit (text ++ more) = BoundedText.limited limit text := by
  have above : limit < text.utf8ByteSize := by simpa [BoundedText.limited] using full
  have longer : limit < (text ++ more).utf8ByteSize := by
    rw [String.utf8ByteSize_append]
    omega
  simp only [BoundedText.limited, cutString_append_of_over above, above, longer]

theorem write_limited (limit : Nat) (text more : String) :
    ((BoundedText.limited limit text).write more).value =
      BoundedText.limited limit (text ++ more) := by
  unfold BoundedText.write
  split
  · rename_i full
    rw [limited_append_of_full full, Logged.value_pure]
  · rename_i notFull
    have fits : text.utf8ByteSize ≤ limit := by simpa [BoundedText.limited] using notFull
    have total : (text ++ more).utf8ByteSize = text.utf8ByteSize + more.utf8ByteSize :=
      String.utf8ByteSize_append
    simp only [BoundedText.limited, cutString_append_of_fits fits, cutString_of_fits fits, total]
    split
    · rename_i room
      have short : ¬ limit < text.utf8ByteSize + more.utf8ByteSize := by omega
      have notYet : ¬ limit < text.utf8ByteSize := by omega
      rw [Logged.value_pure, cutString_of_fits room]
      simp only [short, notYet]
    · rename_i noRoom
      have long : limit < text.utf8ByteSize + more.utf8ByteSize := by omega
      simp only [Logged.value_bind, Logged.value_pure, long, decide_true]

mutual

theorem node_render_limited (scope : Scope) (limit : Nat) (text : String) :
    ∀ n : Node, (n.render scope (BoundedText.limited limit text)).value =
      BoundedText.limited limit (text ++ n.shown scope)
  | .literal more span => by rw [Node.render, Node.shown, write_limited]
  | .output operand span => by
    rw [Node.render, Logged.value_bind, Node.shown, write_limited]
  | .conditional arms span => by
    rw [Node.render, Node.shown]
    exact arms_render_limited scope limit text arms

theorem arms_render_limited (scope : Scope) (limit : Nat) (text : String) :
    ∀ arms : Arms, (arms.render scope (BoundedText.limited limit text)).value =
      BoundedText.limited limit (text ++ arms.shown scope)
  | .guarded guard body rest => by
    rw [Arms.render, Logged.value_bind, Arms.shown]
    split
    · exact renderAll_limited scope limit text body
    · exact arms_render_limited scope limit text rest
  | .otherwise body => by
    rw [Arms.render, Arms.shown]
    exact renderAll_limited scope limit text body
  | .done => by
    rw [Arms.render, Arms.shown, Logged.value_pure, String.append_empty]

theorem renderAll_limited (scope : Scope) (limit : Nat) (text : String) :
    ∀ ns : List Node, (renderAll scope (BoundedText.limited limit text) ns).value =
      BoundedText.limited limit (text ++ shownAll scope ns)
  | [] => by
    rw [renderAll, shownAll, Logged.value_pure, String.append_empty]
  | n :: ns => by
    rw [renderAll]
    split
    · rename_i full
      rw [limited_append_of_full full, Logged.value_pure]
    · rw [Logged.value_bind, node_render_limited scope limit text n,
        renderAll_limited scope limit _ ns, shownAll, String.append_assoc]

end

theorem empty_eq_limited (limit : Nat) :
    BoundedText.empty (some limit) = BoundedText.limited limit "" := by
  simp [BoundedText.empty, BoundedText.limited, cutString]

/-- Rendering with a limit gives the cut of what is rendered without one: the longest beginning in
whole characters that fits. The output says that it is full just when something is missing. -/
theorem limited_rendering_cuts (scope : Scope) (limit : Nat) (ns : List Node) :
    let whole := rendered scope ns
    let out := (renderAll scope (BoundedText.empty (some limit)) ns).value
    out.text = cutString limit whole ∧
      out.text.utf8ByteSize ≤ limit ∧
      out.text.toList <+: whole.toList ∧
      (∀ p : String, p.toList <+: whole.toList → p.utf8ByteSize ≤ limit →
        p.toList <+: out.text.toList) ∧
      (out.full = true ↔ limit < whole.utf8ByteSize) := by
  intro whole out
  have run : out = BoundedText.limited limit whole := by
    have limited := renderAll_limited scope limit "" ns
    rw [← empty_eq_limited, String.empty_append, ← rendered_eq_shownAll] at limited
    exact limited
  have text : out.text = cutString limit whole := by rw [run, BoundedText.limited]
  have chars : out.text.toList = cut limit whole.toList := by rw [text, toList_cutString]
  refine ⟨text, ?_, ?_, ?_, ?_⟩
  · rw [utf8ByteSize_eq_byteSize, chars]
    exact byteSize_cut limit whole.toList
  · rw [chars]
    exact isPrefix_cut limit whole.toList
  · intro p begins fits
    rw [utf8ByteSize_eq_byteSize] at fits
    rw [chars]
    exact prefix_cut begins fits
  · rw [run]
    simp [BoundedText.limited]

/-- A character of two bytes for which one byte is left is dropped as a whole. -/
theorem limited_rendering_drops_character :
    let scope : Scope := ⟨.none, none⟩
    let ns : List Node := [.literal "a" default, .literal "é" default, .literal "b" default]
    let out := (renderAll scope (BoundedText.empty (some 2)) ns).value
    out.text = "a" ∧ out.full = true ∧
      ∀ p : String, p.toList <+: "aéb".toList → p.utf8ByteSize ≤ 2 → p.toList <+: "a".toList := by
  intro scope ns out
  have whole : rendered scope ns = "aéb" := by decide +kernel
  have kept : cutString 2 "aéb" = "a" := by decide +kernel
  obtain ⟨text, _, _, longest, full⟩ := limited_rendering_cuts scope 2 ns
  rw [whole] at text longest full
  refine ⟨text.trans kept, full.2 (by decide +kernel), ?_⟩
  intro p begins fits
  have inside := longest p begins fits
  rw [text, kept] at inside
  exact inside

end TitleTemplate
