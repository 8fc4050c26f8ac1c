import TitleTemplate.Proofs.Legacy.Meaning
import TitleTemplate.Proofs.Template.Literals

/-!
The texts of checks. What a check compares with is written as a bare number or between quotes, and
read back as a literal with the same text. So neither this choice nor what a bare word is taken for
can be seen from the comparison of a text.
-/
namespace TitleTemplate.Legacy

theorem display_literalValue (text : List Char) :
    (literalValue text).display = String.ofList text := by
  rw [literalValue]
  split
  · exact display_literalOfWord _
  · rfl

theorem writesLiteral_literalText (text : List Char) :
    WritesLiteral (literalText text) (String.ofList text) := by
  rw [literalText]
  split
  · rename_i number
    obtain ⟨some, word⟩ := word_of_number number
    exact writesLiteral_word some word
  · exact writesLiteral_quote text

theorem named_check {name : List Char} {check : Check} (named : check? name = some check) :
    check = .truthy ∨ check = .falsy := by
  unfold check? at named
  split_ifs at named
  · exact .inl (Option.some.inj named).symm
  · exact .inr (Option.some.inj named).symm

/-- The operator of a check and the text it compares with, where they stand. -/
def ReadsCheck (cs : List Char) (op : Comparison) (text rest : List Char) : Prop :=
  ∃ before after more, cs = before ++ ':' :: ':' :: after ∧ operator? after = some (op, more) ∧
    comparedText more = some (text, rest)

theorem readsCheck_of_suffix {cs ds : List Char} {op : Comparison} {text rest : List Char}
    (suffix : ds <:+ cs) (reads : ReadsCheck ds op text rest) : ReadsCheck cs op text rest := by
  obtain ⟨front, rfl⟩ := suffix
  obtain ⟨before, after, more, rfl, found⟩ := reads
  exact ⟨front ++ before, after, more, (List.append_assoc _ _ _).symm, found⟩

theorem steps_check {cs rest text : List Char} {ss : List Step} {op : Comparison}
    (read : readSteps cs = some (ss, some (.compare op text), rest)) :
    ReadsCheck cs op text rest := by
  fun_induction readSteps cs generalizing ss rest with
  | case1 cs op after found =>
    obtain ⟨⟨literal, tail⟩, compared, closed⟩ := Option.bind_eq_some_iff.1 read
    obtain ⟨-, same, rfl⟩ := closing_parts closed
    simp only [Option.some.injEq, Check.compare.injEq] at same
    obtain ⟨rfl, rfl⟩ := same
    exact ⟨[], cs, after, rfl, found, compared⟩
  | case2 | case4 => cases read
  | case3 cs noOperator name some check =>
    -- A check that has a name compares with nothing.
    rename_i named
    obtain rfl := Option.some.inj (closing_parts read).2.1
    rcases named_check named with same | same <;> cases same
  | case5 cs _ _ _ _ s after stepRead =>
    rename_i ih
    obtain ⟨⟨others, c, tail⟩, later, same⟩ := Option.map_eq_some_iff.1 read
    obtain ⟨_, same⟩ := Prod.mk.inj same
    obtain ⟨rfl, rfl⟩ := Prod.mk.inj same
    exact readsCheck_of_suffix ((readStep_suffix stepRead).trans (colons_suffix cs)) (ih later)
  | case6 => cases read

theorem head_check {cs rest text : List Char} {head : Head} {op : Comparison}
    (read : Head.read cs = some (head, rest)) (check : head.check = some (.compare op text)) :
    ReadsCheck cs op text rest := by
  simp only [Head.read] at read
  split at read
  · obtain ⟨⟨ss, c, tail⟩, steps, same⟩ := Option.map_eq_some_iff.1 read
    obtain ⟨rfl, rfl⟩ := Prod.mk.inj same
    obtain rfl : c = _ := check
    exact readsCheck_of_suffix (List.dropWhile_suffix _) (steps_check steps)
  · cases read

theorem head_of_writes {written more rest : List Char} {c : Char} {head other : Head}
    (writes : WritesHead written other) (ends : c = '[' ∨ c = '\x7d')
    (read : Head.read (written ++ c :: more) = some (head, rest)) : head = other :=
  congrArg Prod.fst
    (Option.some.inj (read.symm.trans ((head_read_iff ends).2 ⟨written, rfl, writes⟩)))

theorem conditional_guarded {inside : Reader} {offset : Nat} {notes : Notes}
    {cs rest tail : List Char} {head : Head} {node : Node} {run : Scope → BoundedText → BoundedText}
    (denotes : Denotes inside offset notes cs node run tail)
    (read : Head.read cs = some (head, rest)) (checked : head.check.isSome) :
    ∃ body others, node = .conditional (.guarded head.guard body others) default := by
  cases denotes with
  | output writes plain =>
    obtain rfl := head_of_writes writes (.inr rfl) read
    rw [plain] at checked
    cases checked
  | single writes _ =>
    obtain rfl := head_of_writes writes (.inl rfl) read
    exact ⟨_, _, rfl⟩
  | double writes _ _ =>
    obtain rfl := head_of_writes writes (.inl rfl) read
    exact ⟨_, _, rfl⟩

theorem check_compares {source cs rest text : List Char} {depth offset : Nat} {notes : Notes}
    {found : Converted} {head : Head} {op : Comparison}
    (place : Place source offset ('\x7b' :: cs)) (reachable : notes.Reachable source)
    (result : (construct depth offset cs notes).1 = some found)
    (read : Head.read cs = some (head, rest)) (check : head.check = some (.compare op text)) :
    ∃ guard body others span,
      parse Limits.default.depth (String.ofList found.text) =
        .ok [.conditional (.guarded guard body others) span] ∧
      Compares guard head.target op (String.ofList text) := by
  obtain ⟨_, _, nodes, node, run, _, parsed, plain, denotes⟩ :=
    construct_parsed place reachable result
  obtain ⟨body, others, rfl⟩ := conditional_guarded denotes read (by rw [check]; rfl)
  obtain ⟨guard, inner, more, span, rfl, same, _⟩ := guarded_of_plain plain
  refine ⟨guard, inner, more, span, parsed, fun scope s value => ?_⟩
  rw [← holds_relocate noPosition, same, guard_holds, value, Head.accepts, check,
    ← display_literalValue]
  exact holds_tells op s (literalValue text)

/-- Comparisons keep the text of their literal: the ones of a template, however the literal is
written, and the ones that checks are converted to. Whether a text is taken for a number or for a
boolean, or is written as a number or between quotes, makes no difference to them. -/
theorem comparisons_keep_text :
    (∀ {limit : Nat} {template : String} {ns : List Node} {guard : Condition} {left : Operand}
        {op : Comparison} {right : Value} {span : Span},
      parse limit template = .ok ns → guard ∈ guardsWithin ns →
      .compare left op right span ∈ guard.parts →
      ∃ before l v,
        plainLexed (span.slice template).toList = ⟨before ++ [(l, default)], none, default⟩ ∧
        l.literalText? = some v ∧ Compares (.compare left op right span) left op v) ∧
    (∀ {limit : Nat} {raw v : String} {path : List String} {w : List Char} (op : Comparison),
      0 < limit → IsPath raw path → raw ≠ "not" → WritesLiteral w v →
      ∃ c span,
        parse limit (asking (raw ++ " " ++ op.symbol ++ " " ++ String.ofList w)) =
          .ok [.conditional (.guarded c [] .done) span] ∧
        Compares c ⟨path, []⟩ op v) ∧
    (∀ {source cs rest text : List Char} {depth offset : Nat} {notes : Notes} {found : Converted}
        {head : Head} {op : Comparison},
      Place source offset ('\x7b' :: cs) → notes.Reachable source →
      (construct depth offset cs notes).1 = some found → Head.read cs = some (head, rest) →
      head.check = some (.compare op text) →
      ReadsCheck cs op text rest ∧ ∃ guard body others span,
        parse Limits.default.depth (String.ofList found.text) =
          .ok [.conditional (.guarded guard body others) span] ∧
        Compares guard head.target op (String.ofList text)) ∧
    (∀ text : List Char, WritesLiteral (quote text) (String.ofList text) ∧
      WritesLiteral (literalText text) (String.ofList text)) ∧
    ∀ (op : Comparison) (s v : String), op = .eq ∨ op = .ne ∨ op = .contains →
      op.holds (.str s) (literalOfWord v) = op.holds (.str s) (.str v) ∧
      op.holds (.str s) (literalValue v.toList) = op.holds (.str s) (.str v) := by
  refine ⟨?_, ?_, ?_, ?_, ?_⟩
  · intro limit template ns guard left op right span parsed member inside
    obtain ⟨before, l, lexed, text⟩ := comparison_lexed parsed member inside
    exact ⟨before, l, _, lexed, text, compare_compares left op right span⟩
  · intro limit raw v path w op room named other written
    obtain ⟨literal, place, span, parsed, rfl⟩ := comparison_written room named other op written
    exact ⟨_, span, parsed, compare_compares ⟨path, []⟩ op literal place⟩
  · intro source cs rest text depth offset notes found head op place reachable result read check
    exact ⟨head_check read check, check_compares place reachable result read check⟩
  · exact fun text => ⟨writesLiteral_quote text, writesLiteral_literalText text⟩
  · intro op s v plain
    refine ⟨holds_of_display plain s (display_literalOfWord v), holds_of_display plain s ?_⟩
    rw [display_literalValue, String.ofList_toList]
    rfl

/-- The text `007` is neither the number nor the text `7`, however it is written. -/
theorem comparisons_keep_text_zeros :
    let scope : Scope := ⟨.map [("a", .str "7")], none⟩
    (∃ literal place span, parse 1 "\x7bif a = 007\x7d\x7b/if\x7d" =
        .ok [.conditional (.guarded (.compare ⟨["a"], []⟩ .eq literal place) [] .done) span] ∧
      ∃ before l v, plainLexed (place.slice "\x7bif a = 007\x7d\x7b/if\x7d").toList =
          ⟨before ++ [(l, default)], none, default⟩ ∧
        l.literalText? = some v ∧
        Compares (.compare ⟨["a"], []⟩ .eq literal place) ⟨["a"], []⟩ .eq v) ∧
    (∃ c span, parse 1 (asking ("a" ++ " " ++ "=" ++ " " ++ String.ofList "007".toList)) =
        .ok [.conditional (.guarded c [] .done) span] ∧
      Compares c ⟨["a"], []⟩ .eq "007" ∧ (c.holds scope).value = false) ∧
    (∃ guard body others span,
      parse Limits.default.depth (String.ofList "\x7bif a = '007'\x7dy\x7b/if\x7d".toList) =
        .ok [.conditional (.guarded guard body others) span] ∧
      Compares guard ⟨["a"], []⟩ .eq "007" ∧ (guard.holds scope).value = false) ∧
    Comparison.eq.holds (.str "007") (literalOfWord "7") =
      Comparison.eq.holds (.str "007") (.str "7") := by
  intro scope
  obtain ⟨inTemplates, written, converted, _, typed⟩ := comparisons_keep_text
  have path : IsPath "a" ["a"] := isPath_iff.2 ⟨by decide, by decide⟩
  have word : WritesLiteral "007".toList "007" :=
    writesLiteral_word (by decide) (List.all_eq_true.1 (by decide))
  have found : Operand.evaluate scope ⟨["a"], []⟩ = pure (.str "7") := rfl
  have differs : ∀ {c : Condition}, Compares c ⟨["a"], []⟩ .eq "007" →
      (c.holds scope).value = false := by
    intro c compares
    have tells := compares scope "7" (congrArg Logged.value found)
    exact Bool.eq_false_iff.2 fun holds => absurd (tells.1 holds) (by decide)
  refine ⟨?_, ?_, ?_, (typed .eq "007" "7" (.inl rfl)).1⟩
  · obtain ⟨literal, place, span, parsed, _⟩ :=
      comparison_written Nat.one_pos path (by decide) .eq word
    exact ⟨literal, place, span, parsed,
      inTemplates parsed List.mem_cons_self List.mem_cons_self⟩
  · obtain ⟨c, span, parsed, compares⟩ := written .eq Nat.one_pos path (by decide) word
    exact ⟨c, span, parsed, compares, differs compares⟩
  · have result : (construct 0 0 "a::=007['y']\x7d".toList ⟨[], []⟩).1 =
        some ⟨13, "\x7bif a = '007'\x7dy\x7b/if\x7d".toList⟩ := by decide +kernel
    have read : Head.read "a::=007['y']\x7d".toList =
        some (⟨['a'], [], some (.compare .eq "007".toList)⟩, "['y']\x7d".toList) := by cbv
    obtain ⟨_, guard, body, others, span, parsed, compares⟩ :=
      converted (place_start _) .start result read rfl
    exact ⟨guard, body, others, span, parsed, compares, differs compares⟩

end TitleTemplate.Legacy
