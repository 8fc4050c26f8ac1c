import TitleTemplate.Legacy.Conversion
import TitleTemplate.Proofs.Text.Cut

/-!
Places in a source. An offset determines the text from there on, since no character is written with
no bytes; and what a reader of heads leaves is an end of what it was given.
-/
namespace TitleTemplate.Legacy

/-- The text that a source has from an offset on. -/
def Place (source : List Char) (offset : Nat) (cs : List Char) : Prop :=
  ∃ before, source = before ++ cs ∧ offset = byteSize before

theorem prefix_unique {a b cs ds : List Char} (same : a ++ cs = b ++ ds)
    (sizes : byteSize a = byteSize b) : a = b := by
  induction a generalizing b with
  | nil =>
    cases b with
    | nil => rfl
    | cons d b =>
      have positive := d.utf8Size_pos
      rw [byteSize_cons] at sizes
      have empty : byteSize [] = 0 := rfl
      omega
  | cons c a ih =>
    cases b with
    | nil =>
      have positive := c.utf8Size_pos
      rw [byteSize_cons] at sizes
      have empty : byteSize [] = 0 := rfl
      omega
    | cons d b =>
      obtain ⟨rfl, rest⟩ := List.cons.inj same
      rw [byteSize_cons, byteSize_cons] at sizes
      rw [ih rest (by omega)]

variable {source : List Char}

theorem place_unique {offset : Nat} {cs ds : List Char} (here : Place source offset cs)
    (there : Place source offset ds) : cs = ds := by
  obtain ⟨a, source_a, size_a⟩ := here
  obtain ⟨b, source_b, size_b⟩ := there
  have texts : a ++ cs = b ++ ds := source_a.symm.trans source_b
  obtain rfl := prefix_unique texts (size_a.symm.trans size_b)
  exact List.append_cancel_left texts

theorem place_start (source : List Char) : Place source 0 source := ⟨[], rfl, rfl⟩

theorem place_append {offset : Nat} {taken cs : List Char}
    (here : Place source offset (taken ++ cs)) : Place source (offset + byteSize taken) cs := by
  obtain ⟨before, shape, size⟩ := here
  refine ⟨before ++ taken, by rw [shape, List.append_assoc], ?_⟩
  rw [byteSize_append, size]

theorem place_cons {offset : Nat} {c : Char} {cs : List Char}
    (here : Place source offset (c :: cs)) : Place source (offset + c.utf8Size) cs := by
  have next : Place source (offset + byteSize [c]) cs := place_append here
  rwa [byteSize_cons] at next

theorem place_brace {offset : Nat} {cs : List Char} (here : Place source offset ('\x7b' :: cs)) :
    Place source (offset + 1) cs := place_cons here

theorem place_drop {offset : Nat} {cs : List Char} (here : Place source offset ('\x7b' :: cs))
    (n : Nat) : Place source (offset + 1 + byteSize (cs.take n)) (cs.drop n) := by
  have next := place_brace here
  rw [← List.take_append_drop n cs] at next
  exact place_append next

theorem length_before (front rest : List Char) :
    (front ++ rest).length - rest.length = front.length := by
  rw [List.length_append]
  omega

theorem take_before (front rest : List Char) :
    (front ++ rest).take ((front ++ rest).length - rest.length) = front := by
  rw [length_before, List.take_left]

theorem drop_before {cs rest : List Char} (suffix : rest <:+ cs) :
    cs.drop (cs.length - rest.length) = rest := by
  obtain ⟨front, rfl⟩ := suffix
  rw [length_before, List.drop_left]

theorem place_suffix {offset : Nat} {cs rest : List Char} (here : Place source offset cs)
    (suffix : rest <:+ cs) :
    Place source (offset + byteSize (cs.take (cs.length - rest.length))) rest := by
  obtain ⟨taken, rfl⟩ := suffix
  rw [take_before]
  exact place_append here

theorem tail_suffix {cs rest tail : List Char} {c d : Char} {n : Nat} (within : rest <:+ cs)
    (ends : rest.drop n = c :: d :: tail) : tail <:+ cs := by
  have last : tail <:+ rest.drop n :=
    ends ▸ (List.suffix_cons d tail).trans (List.suffix_cons c (d :: tail))
  exact last.trans ((List.drop_suffix n rest).trans within)

theorem skipBlanks_suffix (cs : List Char) : skipBlanks cs <:+ cs := List.dropWhile_suffix isBlank

theorem quotedText_suffix {quote : Char} {cs text rest : List Char}
    (read : quotedText quote cs = some (text, rest)) : rest <:+ cs := by
  fun_induction quotedText quote cs generalizing text rest with
  | case1 | case3 => cases read
  | case2 c cs ih =>
    obtain ⟨⟨a, b⟩, found, same⟩ := Option.map_eq_some_iff.1 read
    obtain ⟨rfl, rfl⟩ := Prod.mk.inj same
    exact (ih found).trans ((List.suffix_cons c cs).trans (List.suffix_cons '\\' (c :: cs)))
  | case4 cs _ =>
    obtain ⟨_, rfl⟩ := Prod.mk.inj (Option.some.inj read)
    exact List.suffix_cons quote cs
  | case5 c cs _ _ _ ih =>
    obtain ⟨⟨a, b⟩, found, same⟩ := Option.map_eq_some_iff.1 read
    obtain ⟨rfl, rfl⟩ := Prod.mk.inj same
    exact (ih found).trans (List.suffix_cons c cs)

theorem bareText_suffix {ends : Char → Bool} {cs text rest : List Char}
    (read : bareText ends cs = some (text, rest)) : rest <:+ cs := by
  simp only [bareText] at read
  split at read
  · cases read
  · obtain ⟨_, rfl⟩ := Prod.mk.inj (Option.some.inj read)
    exact List.dropWhile_suffix _

theorem comparedText_suffix {cs text rest : List Char}
    (read : comparedText cs = some (text, rest)) : rest <:+ cs := by
  cases cs with
  | nil => cases read
  | cons c after =>
    rw [comparedText] at read
    split at read
    · exact (quotedText_suffix read).trans (List.suffix_cons c after)
    · exact bareText_suffix read

theorem readArgument_suffix {cs rest : List Char} {a : Argument}
    (read : readArgument cs = some (a, rest)) : rest <:+ cs := by
  cases cs with
  | nil => cases read
  | cons c after =>
    rw [readArgument] at read
    split at read
    · obtain ⟨⟨text, tail⟩, found, same⟩ := Option.map_eq_some_iff.1 read
      obtain ⟨_, rfl⟩ := Prod.mk.inj same
      exact (quotedText_suffix found).trans (List.suffix_cons c after)
    · obtain ⟨⟨text, tail⟩, found, same⟩ := Option.map_eq_some_iff.1 read
      obtain ⟨_, rfl⟩ := Prod.mk.inj same
      exact bareText_suffix found

theorem readArgumentsFrom_suffix {cs rest : List Char} {as : List Argument}
    (read : readArgumentsFrom cs = some (as, rest)) : rest <:+ cs := by
  fun_induction readArgumentsFrom cs generalizing as rest with
  | case1 | case4 => cases read
  | case2 cs a after first more comma ih =>
    obtain ⟨⟨others, tail⟩, found, same⟩ := Option.map_eq_some_iff.1 read
    obtain ⟨_, rfl⟩ := Prod.mk.inj same
    have later : more <:+ skipBlanks after := comma ▸ List.suffix_cons ',' more
    exact (ih found).trans (later.trans ((skipBlanks_suffix after).trans
      ((readArgument_suffix first).trans (skipBlanks_suffix cs))))
  | case3 cs a after first tail close =>
    obtain ⟨_, rfl⟩ := Prod.mk.inj (Option.some.inj read)
    have later : tail <:+ skipBlanks after := close ▸ List.suffix_cons ')' tail
    exact later.trans ((skipBlanks_suffix after).trans
      ((readArgument_suffix first).trans (skipBlanks_suffix cs)))

theorem readArguments_suffix {cs rest : List Char} {as : List Argument}
    (read : readArguments cs = some (as, rest)) : rest <:+ cs := by
  rw [readArguments] at read
  split at read
  · rename_i tail close
    obtain ⟨_, rfl⟩ := Prod.mk.inj (Option.some.inj read)
    have later : tail <:+ skipBlanks cs := close ▸ List.suffix_cons ')' tail
    exact later.trans (skipBlanks_suffix cs)
  · exact readArgumentsFrom_suffix read

theorem readStep_suffix {cs rest : List Char} {s : Step} (read : readStep cs = some (s, rest)) :
    rest <:+ cs := by
  simp only [readStep] at read
  split at read
  · rename_i tail parens
    obtain ⟨⟨as, after⟩, found, same⟩ := Option.map_eq_some_iff.1 read
    obtain ⟨_, rfl⟩ := Prod.mk.inj same
    have later : tail <:+ cs.dropWhile isStepChar := parens ▸ List.suffix_cons '(' tail
    exact (readArguments_suffix found).trans (later.trans (List.dropWhile_suffix isStepChar))
  · obtain ⟨_, rfl⟩ := Prod.mk.inj (Option.some.inj read)
    exact List.dropWhile_suffix isStepChar

theorem operator_suffix {cs rest : List Char} {op : Comparison}
    (read : operator? cs = some (op, rest)) : rest <:+ cs := by
  unfold operator? at read
  split at read
  all_goals cases read
  all_goals first
    | exact List.suffix_cons _ _
    | exact (List.suffix_cons _ _).trans (List.suffix_cons _ _)

theorem colons_suffix (cs : List Char) : cs <:+ ':' :: ':' :: cs :=
  (List.suffix_cons ':' cs).trans (List.suffix_cons ':' (':' :: cs))

theorem readSteps_suffix {cs rest : List Char} {ss : List Step} {check : Option Check}
    (read : readSteps cs = some (ss, check, rest)) : rest <:+ cs := by
  fun_induction readSteps cs generalizing ss check rest with
  | case1 cs op after found =>
    obtain ⟨⟨literal, tail⟩, text, closed⟩ := Option.bind_eq_some_iff.1 read
    obtain ⟨-, -, rfl⟩ := closing_parts closed
    exact (comparedText_suffix text).trans ((operator_suffix found).trans (colons_suffix cs))
  | case2 | case4 => cases read
  | case3 cs =>
    obtain ⟨-, -, rfl⟩ := closing_parts read
    exact (List.dropWhile_suffix isStepChar).trans (colons_suffix cs)
  | case5 cs _ _ _ _ s after stepRead =>
    rename_i ih
    obtain ⟨⟨others, c, tail⟩, later, same⟩ := Option.map_eq_some_iff.1 read
    obtain ⟨_, same⟩ := Prod.mk.inj same
    obtain ⟨_, rfl⟩ := Prod.mk.inj same
    exact (ih later).trans ((readStep_suffix stepRead).trans (colons_suffix cs))
  | case6 =>
    obtain ⟨_, same⟩ := Prod.mk.inj (Option.some.inj read)
    obtain ⟨_, rfl⟩ := Prod.mk.inj same
    exact List.suffix_rfl

theorem head_suffix {cs rest : List Char} {head : Head}
    (read : Head.read cs = some (head, rest)) : rest <:+ cs := by
  simp only [Head.read] at read
  split at read
  · obtain ⟨⟨ss, check, tail⟩, steps, same⟩ := Option.map_eq_some_iff.1 read
    obtain ⟨_, rfl⟩ := Prod.mk.inj same
    exact (readSteps_suffix steps).trans (List.dropWhile_suffix _)
  · cases read

end TitleTemplate.Legacy
