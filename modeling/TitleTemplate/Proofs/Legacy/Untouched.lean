import TitleTemplate.Proofs.Legacy.TooDeep
import TitleTemplate.Proofs.Template.Composition
import TitleTemplate.Proofs.Template.Excerpts

/-!
Templates that the conversion leaves as they are. The span of an output begins with a path, and what
comes after the path is nothing that a construct goes on with; so the span is no construct, or it is
a bare path and is rewritten to itself. The end of the span is then found without knowing the
lexemes in it, and it is the same end, as long as no other brace opens outside of its quotes.
-/
namespace TitleTemplate.Legacy

variable {inner rest : List Char} {o : Operand}

theorem isOutput_braced (enclosed : Enclosed inner) (single : inner.head? ≠ some '\x7b')
    (read : itemOf Limits.default.depth inner = some (.output o)) :
    isOutput (braced inner) = true := by
  obtain ⟨nodes, parsed, plain⟩ :=
    parse_of_spells (spells_output enclosed single read) (Nat.zero_le _)
  have whole : merged [.output o default] = [.output o default] := rfl
  rw [whole, plainNodes, relocateNodes_eq_map, List.map_eq_singleton_iff] at plain
  obtain ⟨n, rfl, same⟩ := plain
  cases n with
  | literal | conditional => cases same
  | output operand span => exact isOutput_iff.2 ⟨operand, span, parsed⟩

theorem leftover_output (found : splitAtClose (inner ++ '\x7d' :: rest) = some (inner, rest))
    (single : inner.head? ≠ some '\x7b') (closed : '\x7b' ∉ unquotedFrom none inner)
    (read : itemOf Limits.default.depth inner = some (.output o)) :
    leftover (inner ++ '\x7d' :: rest) = ⟨inner.length + 1, braced inner⟩ := by
  have taken : '\x7b' :: (inner ++ '\x7d' :: rest).take (inner.length + 1) = braced inner := by
    rw [List.take_length_add_append]
    rfl
  have output := isOutput_braced (enclosed_of_split found) single read
  have kept : keptSpan (inner ++ '\x7d' :: rest) = some (inner.length + 1) := by
    rw [keptSpan, spanLength_of_split found closed, Option.filter_some, taken, output]
    rfl
  simp only [leftover, kept, taken]

theorem isPathChar_ends {c : Char} (ends : endsWordAt c = true) : isPathChar c = false := by
  by_contra path
  rw [Bool.not_eq_false, isPathChar, Bool.or_eq_true, decide_eq_true_iff] at path
  rcases path with rfl | segment
  · exact absurd ends (by decide)
  · have inside := (isWordChar_iff.1 (isWordChar_of_segment segment)).1
    rw [ends] at inside
    cases inside

theorem head_read_blank {c : Char} (blank : isBlank c = true) (cs : List Char) :
    Head.read (c :: cs) = none := by
  have ends : endsWordAt c = true := by rw [endsWordAt, blank, Bool.true_or]
  rw [head_read_eq, List.takeWhile_cons_of_neg (by simp [isPathChar_ends ends]),
    if_neg (by decide)]

theorem readConstruct_path {raw : List Char} (path : (splitAtChar '.' raw).all isSegment = true)
    (inside : Reader) (offset : Nat) (rest : List Char) (notes : Notes) :
    readConstruct inside offset (raw ++ '\x7d' :: rest) notes =
      (some ⟨raw.length + 1, braced raw⟩, notes) := by
  have ends : isPathChar '\x7d' = false := by decide +kernel
  have single : '\x7d' ≠ ':' := by decide
  have length : (raw ++ '\x7d' :: rest).length - rest.length = raw.length + 1 := by
    rw [List.length_append, List.length_cons]
    omega
  simp only [readConstruct, read_flag path ends single, length]
  simp [braced, Head.operand]

theorem readConstruct_other {cs more : List Char} {head : Head} {d : Char}
    (read : Head.read cs = some (head, d :: more)) (ends : endsWordAt d = true)
    (inside : Reader) (offset : Nat) (notes : Notes) :
    readConstruct inside offset cs notes = (none, notes) := by
  rw [readConstruct]
  split
  · rename_i same
    obtain ⟨-, same⟩ := Prod.mk.inj (Option.some.inj (read.symm.trans same))
    obtain ⟨rfl, -⟩ := List.cons.inj same
    exact absurd ends (by decide)
  · rename_i same
    obtain ⟨-, same⟩ := Prod.mk.inj (Option.some.inj (read.symm.trans same))
    obtain ⟨rfl, -⟩ := List.cons.inj same
    exact absurd ends (by decide)
  · rfl

/-- The head of an output is no head of a construct, unless the output is a path and no more. -/
theorem readConstruct_output (inside : Reader) (offset : Nat) (notes : Notes) {limit : Nat}
    (read : itemOf limit inner = some (.output o)) :
    ∃ found, readConstruct inside offset (inner ++ '\x7d' :: rest) notes = (found, notes) ∧
      ∀ c ∈ found, c = ⟨inner.length + 1, braced inner⟩ := by
  obtain ⟨raw, after, shape, path, ends⟩ := output_begins read
  cases inner with
  | nil =>
    obtain ⟨rfl, -⟩ := List.append_eq_nil_iff.1 shape.symm
    exact absurd path (by decide)
  | cons c tail =>
    cases blank : isBlank c with
    | true =>
      refine ⟨none, ?_, by simp⟩
      rw [readConstruct, List.cons_append, head_read_blank blank]
    | false =>
      rw [List.dropWhile_cons_of_neg (by simp [blank])] at shape
      rw [shape, List.append_assoc]
      cases after with
      | nil =>
        rw [List.nil_append, List.append_nil]
        exact ⟨_, readConstruct_path path inside offset rest notes, by simp⟩
      | cons d after =>
        have ends' : endsWordAt d = true := ends d rfl
        have apart : d ≠ ':' := by
          rintro rfl
          exact absurd ends' (by decide)
        have head := read_flag path (isPathChar_ends ends') apart (after ++ '\x7d' :: rest)
        exact ⟨none, readConstruct_other head ends' inside offset notes, by simp⟩

theorem pass_output {offset : Nat} {notes : Notes} (fresh : notes.Fresh offset)
    (found : splitAtClose (inner ++ '\x7d' :: rest) = some (inner, rest))
    (single : inner.head? ≠ some '\x7b') (closed : '\x7b' ∉ unquotedFrom none inner)
    (read : itemOf Limits.default.depth inner = some (.output o)) :
    (pass (construct 0) offset (inner ++ '\x7d' :: rest) notes).1 =
        ⟨inner.length + 1, braced inner⟩ ∧
      ∀ later, offset < later →
        (pass (construct 0) offset (inner ++ '\x7d' :: rest) notes).2.Fresh later := by
  obtain ⟨rewritten, result, only⟩ := readConstruct_output (construct 1) offset notes read
  have shallow : ¬maxDepth < 0 := Nat.not_lt_zero maxDepth
  have constructed :=
    construct_read (inner ++ '\x7d' :: rest) (fresh offset (Nat.le_refl offset)) shallow
  rw [result] at constructed
  dsimp only at constructed
  have left := leftover_output found single closed read
  have learned : ∀ later answer, offset < later → (notes.learn offset answer).Fresh later :=
    fun later answer less => fresh_learn (fresh_later fresh (Nat.le_of_lt less)) less answer
  rw [pass, constructed]
  cases kept : rewritten.filter (isReadable ·.text) with
  | some c =>
    obtain ⟨some, -⟩ := Option.filter_eq_some_iff.1 kept
    exact ⟨only c some, fun later less => learned later _ less⟩
  | none =>
    refine ⟨left, fun later less => ?_⟩
    dsimp only
    split
    · exact learned later _ less
    · exact learned later _ less

theorem written_output {offset : Nat} {notes : Notes} (fresh : notes.Fresh offset)
    (found : splitAtClose (inner ++ '\x7d' :: rest) = some (inner, rest))
    (single : inner.head? ≠ some '\x7b') (closed : '\x7b' ∉ unquotedFrom none inner)
    (read : itemOf Limits.default.depth inner = some (.output o)) :
    ∃ later after, after.Fresh later ∧
      writtenFrom (construct 0) offset ('\x7b' :: (inner ++ '\x7d' :: rest)) notes =
        braced inner ++ writtenFrom (construct 0) later rest after := by
  obtain ⟨stands, learned⟩ := pass_output fresh found single closed read
  have dropped : (inner ++ '\x7d' :: rest).drop (inner.length + 1) = rest := by
    rw [List.drop_length_add_append]
    rfl
  rw [writtenFrom_brace, stands]
  dsimp only
  rw [dropped]
  exact ⟨_, _, learned _ (by omega), rfl⟩

theorem single_of_source {d : Char} {after : List Char} (again : isOpen d = false)
    (source : inner ++ '\x7d' :: rest = d :: after) : inner.head? ≠ some '\x7b' := by
  cases inner with
  | nil => simp
  | cons e inner =>
    obtain ⟨rfl, -⟩ := List.cons.inj source
    simpa [isOpen] using again

theorem written_untouched {cs : List Char}
    (outputs : ∀ inner, .expression inner ∈ Token.scan cs →
      (∃ o, itemOf Limits.default.depth inner = some (.output o)) ∧
        '\x7b' ∉ unquotedFrom none inner)
    (noBraces : .brace ∉ Token.scan cs) (terminated : Terminated cs) {offset : Nat} {notes : Notes}
    (fresh : notes.Fresh offset) : writtenFrom (construct 0) offset cs notes = cs := by
  induction size : cs.length using Nat.strong_induction_on generalizing cs offset notes with
  | _ room ih =>
    cases cs with
    | nil => exact writtenFrom_all _ _ (by simp) notes
    | cons c rest =>
      rw [List.length_cons] at size
      cases opens : isOpen c with
      | false =>
        obtain ⟨w, tail, rfl, plain, stops⟩ := Token.exists_run opens rest
        rw [← List.cons_append] at outputs noBraces terminated ⊢
        have scanned := Token.scan_run plain stops
        rw [scanned] at outputs noBraces
        rw [List.length_append] at size
        rw [writtenFrom_plain _ _ (fun d member => by simpa [isOpen] using plain d member)]
        refine congrArg (c :: w ++ ·) (ih tail.length (by omega)
          (fun inner member => outputs inner (List.mem_cons_of_mem _ member))
          (fun member => noBraces (List.mem_cons_of_mem _ member))
          (terminated_after scanned terminated) (fresh_later fresh (Nat.le_add_right _ _)) rfl)
      | true =>
        obtain rfl := isOpen_iff.1 opens
        cases rest with
        | nil => exact absurd (by rw [Token.scan_open]; rfl) (terminated [])
        | cons d after =>
          cases again : isOpen d with
          | true =>
            obtain rfl := isOpen_iff.1 again
            rw [Token.scan_braces] at noBraces
            exact absurd List.mem_cons_self noBraces
          | false =>
            cases found : splitAtClose (d :: after) with
            | none => exact absurd (by rw [Token.scan_unclosed again found]; rfl) (terminated _)
            | some parts =>
              obtain ⟨inner, tail⟩ := parts
              have scanned := Token.scan_closed again found
              rw [scanned] at outputs noBraces
              have source := splitAtClose_source found
              obtain ⟨⟨o, read⟩, closed⟩ := outputs inner List.mem_cons_self
              have first := single_of_source again source
              have shorter := splitAtClose_length found
              rw [← source] at found ⊢
              obtain ⟨later, known, freshLater, written⟩ :=
                written_output fresh found first closed read
              rw [written, ih tail.length (by omega)
                (fun other member => outputs other (List.mem_cons_of_mem _ member))
                (fun member => noBraces (List.mem_cons_of_mem _ member))
                (terminated_after scanned terminated) freshLater rfl]
              simp [braced]

/-- A template without conditionals and doubled braces is converted to itself, if all its braces are
closed and none opens in an expression outside of quotes. -/
theorem output_spans_untouched {limit : Nat} {template : String} {nodes : List Node}
    (parsed : parse limit template = .ok nodes) (flat : nestingWithin nodes = 0)
    (noBraces : .brace ∉ Token.scan template.toList) (terminated : Terminated template.toList)
    (closed : ∀ inner, .expression inner ∈ Token.scan template.toList →
      '\x7b' ∉ unquotedFrom none inner) :
    (convert template).value = template := by
  have written := written_untouched
    (fun inner member => ⟨expression_output parsed flat member _, closed inner member⟩)
    noBraces terminated (fresh_start 0)
  have value : (convert template).value =
      String.ofList (writtenFrom (construct 0) 0 template.toList ⟨[], []⟩) := rfl
  rw [value, written, String.ofList_toList]

/-- Braces and quotes in quotes, escaped or not, are none of the conversion's business. -/
theorem output_spans_untouched_quoted :
    let template := "\x7dé\x7bx.y\x7d\x7b n|join(\"\x7b\", '\\'\\\x7d\\\\é\x7b') |upper \x7d"
    (∃ nodes, parse 0 template = .ok nodes ∧ nestingWithin nodes = 0) ∧
      .brace ∉ Token.scan template.toList ∧ Terminated template.toList ∧
      (∀ inner, .expression inner ∈ Token.scan template.toList →
        '\x7b' ∉ unquotedFrom none inner) ∧
      (convert template).value = template := by
  intro template
  have nested : ((parse 0 template).toOption.map nestingWithin) = some 0 := by decide +kernel
  obtain ⟨nodes, parsed, flat⟩ := parsed_of_map nested
  have tokens : Token.scan template.toList = [.text "\x7dé".toList, .expression "x.y".toList,
      .expression " n|join(\"\x7b\", '\\'\\\x7d\\\\é\x7b') |upper ".toList] := by decide +kernel
  have noBraces : .brace ∉ Token.scan template.toList := by
    rw [tokens]
    decide
  have terminated : Terminated template.toList := by
    intro rest
    rw [tokens]
    simp
  have closed : ∀ inner, .expression inner ∈ Token.scan template.toList →
      '\x7b' ∉ unquotedFrom none inner := by
    intro inner member
    simp only [tokens, List.mem_cons, reduceCtorEq, Token.expression.injEq, List.not_mem_nil,
      or_false, false_or] at member
    rcases member with rfl | rfl <;> decide +kernel
  exact ⟨⟨nodes, parsed, flat⟩, noBraces, terminated, closed,
    output_spans_untouched parsed flat noBraces terminated closed⟩

end TitleTemplate.Legacy
