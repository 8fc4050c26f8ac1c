import TitleTemplate.Proofs.Legacy.Readers
import TitleTemplate.Proofs.Template.Rendering

/-!
What a converted construct means. The text that is found for a construct is read back as one node:
the output or the conditional that the construct denotes by its source, with the branches as they
are read from their places. This holds whatever has been read of the source before and however deep
the construct stands. A construct that is remembered was read earlier, with the notes of that time.
-/
namespace TitleTemplate.Legacy

/-- The text that a branch is converted to, from behind its opening quote on, and what comes after
its closing quote. Constructs inside are converted in turn, and any other brace is doubled. -/
inductive ReadsBranch (inside : Reader) (quote : Char) :
    Nat → List Char → Notes → List Char → List Char → Notes → Prop
  | ended {offset : Nat} {rest : List Char} {notes : Notes} :
      ReadsBranch inside quote offset (quote :: rest) notes [] rest notes
  | escaped {offset : Nat} {c : Char} {rest text tail : List Char} {notes after : Notes}
      (special : c = quote ∨ c = '\\')
      (later : ReadsBranch inside quote (offset + 1 + c.utf8Size) rest notes text tail after) :
      ReadsBranch inside quote offset ('\\' :: c :: rest) notes (c :: text) tail after
  | backslash {offset : Nat} {rest text tail : List Char} {notes after : Notes}
      (plain : ∀ c ∈ rest.head?, c ≠ quote ∧ c ≠ '\\')
      (later : ReadsBranch inside quote (offset + 1) rest notes text tail after) :
      ReadsBranch inside quote offset ('\\' :: rest) notes ('\\' :: text) tail after
  | char {offset : Nat} {c : Char} {rest text tail : List Char} {notes after : Notes}
      (plain : c ≠ quote ∧ c ≠ '\\' ∧ c ≠ '\x7b')
      (later : ReadsBranch inside quote (offset + c.utf8Size) rest notes text tail after) :
      ReadsBranch inside quote offset (c :: rest) notes (c :: text) tail after
  | construct {offset : Nat} {rest text tail : List Char} {notes between after : Notes}
      {found : Converted} (here : inside offset rest notes = (some found, between))
      (later : ReadsBranch inside quote (offset + 1 + byteSize (rest.take found.length))
        (rest.drop found.length) between text tail after) :
      ReadsBranch inside quote offset ('\x7b' :: rest) notes (found.text ++ text) tail after
  | brace {offset : Nat} {rest text tail : List Char} {notes between after : Notes}
      (nothing : inside offset rest notes = (none, between))
      (later : ReadsBranch inside quote (offset + 1) rest between text tail after) :
      ReadsBranch inside quote offset ('\x7b' :: rest) notes ('\x7b' :: '\x7b' :: text) tail after

/-- A branch with its quotes: the text it is converted to, and the nodes of that. -/
inductive IsBranch (inside : Reader) (offset : Nat) :
    List Char → Notes → List Char → List Node → List Char → Notes → Prop
  | mk {quote : Char} {rest text tail : List Char} {nodes : List Node} {notes after : Notes}
      (opens : quote = '"' ∨ quote = '\'')
      (reads : ReadsBranch inside quote (offset + 1) rest notes text tail after)
      (parsed : parse Limits.default.depth (String.ofList text) = .ok nodes) :
      IsBranch inside offset (quote :: rest) notes text nodes tail after

/-- The node that the construct behind a brace denotes, what becomes of an output when the construct
is rendered, and what comes after it in the source. -/
inductive Denotes (inside : Reader) (offset : Nat) (notes : Notes) :
    List Char → Node → (Scope → BoundedText → BoundedText) → List Char → Prop
  | output {written tail : List Char} {head : Head} (head_written : WritesHead written head)
      (plain : head.check = none) :
      Denotes inside offset notes (written ++ '\x7d' :: tail) (.output head.target default)
        (fun scope out => (out.write (head.target.evaluate scope).value.display).value) tail
  | single {written rest text tail : List Char} {head : Head} {whenTrue : List Node}
      {after : Notes} (head_written : WritesHead written head)
      (taken : IsBranch inside (offset + 1 + byteSize (written ++ ['['])) rest notes text whenTrue
        (']' :: '\x7d' :: tail) after) :
      Denotes inside offset notes (written ++ '[' :: rest)
        (.conditional (.guarded head.guard (plainNodes whenTrue) .done) default)
        (fun scope out =>
          if head.accepts (head.target.evaluate scope).value then
            (renderAll scope out whenTrue).value
          else out) tail
  | double {written front rest text other tail : List Char} {head : Head}
      {whenTrue whenFalse : List Node} {between after : Notes}
      (head_written : WritesHead written head)
      (taken : IsBranch inside (offset + 1 + byteSize (written ++ ['[']))
        (front ++ '|' :: '|' :: rest) notes text whenTrue ('|' :: '|' :: rest) between)
      (refused : IsBranch inside (offset + 1 + byteSize (written ++ '[' :: (front ++ ['|', '|'])))
        rest between other whenFalse (']' :: '\x7d' :: tail) after) :
      Denotes inside offset notes (written ++ '[' :: (front ++ '|' :: '|' :: rest))
        (.conditional (.guarded head.guard (plainNodes whenTrue)
          (restArms other (plainNodes whenFalse))) default)
        (fun scope out =>
          if head.accepts (head.target.evaluate scope).value then
            (renderAll scope out whenTrue).value
          else (renderAll scope out whenFalse).value) tail

/-- The notes there can be after reading constructs of a source, in any order. -/
inductive Notes.Reachable (source : List Char) : Notes → Prop
  | start : Reachable source ⟨[], []⟩
  | read {notes : Notes} {offset : Nat} {cs : List Char} (depth : Nat) :
      Reachable source notes → Place source offset ('\x7b' :: cs) →
      Reachable source (construct depth offset cs notes).2
  | keep {notes : Notes} (offset : Nat) :
      Reachable source notes → Reachable source (notes.tell (.keptSpan offset))

/-- Notes of one run, the first of them taken earlier. -/
structure Notes.Before (earlier notes : Notes) : Prop where
  known : earlier.known <:+ notes.known
  events : earlier.events <:+ notes.events

/-- The depth at which a construct was read and the notes it was read with: those of now, when
nothing is remembered of it, or those of an earlier moment of the run. -/
inductive ReadWith (source : List Char) (offset : Nat) (cs : List Char) (depth : Nat)
    (notes : Notes) : Nat → Notes → Prop
  | now (unknown : notes.known.lookup offset = none) :
      ReadWith source offset cs depth notes depth notes
  | earlier {past : Nat} {earlier : Notes} (known : notes.known.lookup offset ≠ none)
      (reachable : earlier.Reachable source) (unknown : earlier.known.lookup offset = none)
      (since : (construct past offset cs earlier).2.Before notes) :
      ReadWith source offset cs depth notes past earlier

theorem prepend_eq_some {taken : Nat} {text : List Char} {result : Option Converted × Notes}
    {found : Converted} {after : Notes}
    (same : Converted.prepend taken text result = (some found, after)) :
    ∃ later, result = (some later, after) ∧ found = ⟨taken + later.length, text ++ later.text⟩ := by
  obtain ⟨result, notes⟩ := result
  obtain ⟨found_eq, rfl⟩ := Prod.mk.inj same
  obtain ⟨later, rfl, rfl⟩ := Option.map_eq_some_iff.1 found_eq
  exact ⟨later, rfl, rfl⟩

theorem branchFrom_reads {inside : Reader} {quote : Char} {offset : Nat} {cs : List Char}
    {notes after : Notes} {found : Converted}
    (result : branchFrom inside quote offset cs notes = (some found, after)) :
    ReadsBranch inside quote offset cs notes found.text (cs.drop found.length) after := by
  fun_induction branchFrom inside quote offset cs notes generalizing found with
  | case1 => cases result
  | case2 offset notes c rest special ih =>
    obtain ⟨later, shorter, rfl⟩ := prepend_eq_some result
    rw [Nat.add_comm, List.drop_succ_cons, List.drop_succ_cons]
    exact .escaped special (ih shorter)
  | case3 offset notes c rest plain ih =>
    obtain ⟨later, shorter, rfl⟩ := prepend_eq_some result
    rw [Nat.add_comm, List.drop_succ_cons]
    refine .backslash (fun d first => ?_) (ih shorter)
    obtain rfl := Option.some.inj first
    exact not_or.1 plain
  | case4 offset notes rest inner between read start =>
    rename_i ih
    obtain ⟨later, shorter, rfl⟩ := prepend_eq_some result
    have left := ih shorter
    rw [List.drop_drop] at left
    rw [Nat.add_assoc, Nat.add_comm, List.drop_succ_cons]
    exact .construct read left
  | case5 offset notes rest between read ih =>
    obtain ⟨later, shorter, rfl⟩ := prepend_eq_some result
    rw [Nat.add_comm, List.drop_succ_cons]
    exact .brace read (ih shorter)
  | case6 offset notes rest =>
    cases result
    exact .ended
  | case7 offset notes c rest escape notOpen other ih =>
    obtain ⟨later, shorter, rfl⟩ := prepend_eq_some result
    rw [Nat.add_comm, List.drop_succ_cons]
    by_cases backslash : c = '\\'
    · subst backslash
      refine .backslash (fun d first => ?_) (ih shorter)
      cases rest with
      | nil => cases first
      | cons e rest => exact (escape e rest rfl rfl).elim
    · exact .char ⟨other, backslash, notOpen⟩ (ih shorter)

theorem branch_reads {inside : Reader} {offset : Nat} {cs : List Char} {notes after : Notes}
    {found : Converted} {nodes : List Node}
    (result : branch inside offset cs notes = (some found, after))
    (parsed : parse Limits.default.depth (String.ofList found.text) = .ok nodes) :
    IsBranch inside offset cs notes found.text nodes (cs.drop found.length) after := by
  cases cs with
  | nil => cases result
  | cons quote rest =>
    rw [branch] at result
    split at result
    · rename_i opens
      obtain ⟨later, shorter, rfl⟩ := prepend_eq_some result
      rw [Nat.add_comm, List.drop_succ_cons]
      exact .mk (quote_cases opens) (branchFrom_reads shorter) parsed
    · cases result

def SpellsNode (text : List Char) : Prop :=
  ∃ height node, Spells Limits.default.depth height text [node] ∧ height ≤ Limits.default.depth

variable {source : List Char} {holds : Notes → Prop} {inside : Reader}

/-- What a construct is converted to spells the node it denotes, if what is found inside spells
something. -/
theorem readConstruct_denotes
    (meets : Meets source holds (fun _ _ found => Spelled found.text) inside) {offset : Nat}
    {cs : List Char} {notes : Notes} {found : Converted}
    (place : Place source offset ('\x7b' :: cs)) (before : holds notes)
    (result : (readConstruct inside offset cs notes).1 = some found)
    (readable : isReadable found.text = true) :
    ∃ height node run tail, Spells Limits.default.depth height found.text [node] ∧
      height ≤ Limits.default.depth ∧ Denotes inside offset notes cs node run tail ∧
      tail = cs.drop found.length := by
  have inner := place_brace place
  cases readConstruct_rewrites result with
  | output read plain =>
    have spells := operand_spells (written_of_read read) readable
    have ends := (List.suffix_cons _ _).trans (head_suffix read)
    obtain ⟨written, rfl, writes⟩ := (head_read_iff (.inr rfl)).1 read
    exact ⟨0, _, _, _, spells, Nat.zero_le _, .output writes plain, (drop_before ends).symm⟩
  | @single head rest tail first after read whenTrue ends =>
    obtain ⟨height, ns, firstSpells⟩ :=
      branch_spelled meets (place_first inner read) before (congrArg Prod.fst whenTrue)
    obtain ⟨fits, _, total, spells⟩ :=
      conditional_spells (written_of_read read) readable firstSpells spells_nil
    obtain ⟨nodes, parsed, same⟩ := parse_of_spells firstSpells fits
    rw [← same] at spells
    have last := tail_suffix ((List.suffix_cons '[' rest).trans (head_suffix read)) ends
    obtain ⟨written, rfl, writes⟩ := (head_read_iff (.inl rfl)).1 read
    have shape : written ++ '[' :: rest = written ++ ['['] ++ rest := by simp
    have taken := branch_reads whenTrue parsed
    rw [ends, shape, take_before] at taken
    exact ⟨total, _, _, _, spells, fits_of_readable spells readable, .single writes taken,
      (drop_before last).symm⟩
  | @double head rest more tail first second between after read whenTrue bars whenFalse ends =>
    obtain ⟨height, ns, firstSpells⟩ :=
      branch_spelled meets (place_first inner read) before (congrArg Prod.fst whenTrue)
    have kept := branch_keeps meets (place_first inner read) before
    rw [whenTrue] at kept
    obtain ⟨k, ms, secondSpells⟩ :=
      branch_spelled meets (place_second inner read bars) kept (congrArg Prod.fst whenFalse)
    obtain ⟨fits, fitsToo, total, spells⟩ :=
      conditional_spells (written_of_read read) readable firstSpells secondSpells
    obtain ⟨nodes, parsed, same⟩ := parse_of_spells firstSpells fits
    obtain ⟨others, parsedToo, sameToo⟩ := parse_of_spells secondSpells fitsToo
    rw [← same, ← sameToo] at spells
    have last := tail_suffix
      (tail_suffix ((List.suffix_cons '[' rest).trans (head_suffix read)) bars) ends
    obtain ⟨written, rfl, writes⟩ := (head_read_iff (.inl rfl)).1 read
    have taken := branch_reads whenTrue parsed
    have refused := branch_reads whenFalse parsedToo
    obtain ⟨front, rfl⟩ : ∃ front, rest = front ++ '|' :: '|' :: more :=
      ⟨rest.take first.length, bars ▸ (List.take_append_drop first.length rest).symm⟩
    have opened : written ++ '[' :: (front ++ '|' :: '|' :: more) =
        written ++ ['['] ++ (front ++ '|' :: '|' :: more) := by simp
    have seam : written ++ '[' :: (front ++ '|' :: '|' :: more) =
        written ++ '[' :: (front ++ ['|', '|']) ++ more := by simp
    rw [bars, opened, take_before] at taken
    rw [ends, seam, take_before] at refused
    exact ⟨total, _, _, _, spells, fits_of_readable spells readable, .double writes taken refused,
      (drop_before last).symm⟩

theorem spelled_of_node {text : List Char} (spells : SpellsNode text) : Spelled text := by
  obtain ⟨height, node, spells, _⟩ := spells
  exact ⟨height, [node], spells⟩

/-- Whatever is remembered of a source is read back as one node. -/
abbrev Notes.Proper (source : List Char) : Notes → Prop :=
  Notes.Fitting (fun _ found => SpellsNode found.text) source

theorem construct_proper (depth : Nat) :
    Meets source (Notes.Proper source) (fun _ _ found => SpellsNode found.text)
      (construct depth) := by
  refine construct_meets_fit (fun meets place before result readable => ?_) depth
  obtain ⟨height, node, _, _, spells, fits, _⟩ :=
    readConstruct_denotes (meets_imp meets spelled_of_node) place before result readable
  exact ⟨height, node, spells, fits⟩

theorem proper_of_reachable {notes : Notes} (reachable : notes.Reachable source) :
    notes.Proper source := by
  induction reachable with
  | start => exact fitting_start
  | read depth _ place ih => exact (construct_proper depth).keeps place ih
  | keep offset _ ih => exact ih

theorem found_denotes {depth offset : Nat} {cs : List Char} {notes : Notes} {found : Converted}
    (place : Place source offset ('\x7b' :: cs)) (reachable : notes.Reachable source)
    (unknown : notes.known.lookup offset = none)
    (result : (construct depth offset cs notes).1 = some found) :
    ∃ height node run, Spells Limits.default.depth height found.text [node] ∧
      height ≤ Limits.default.depth ∧
      Denotes (construct (depth + 1)) offset notes cs node run (cs.drop found.length) := by
  have shallow : ¬maxDepth < depth := by
    intro deep
    rw [construct_deep cs unknown deep] at result
    cases result
  rw [construct_read cs unknown shallow] at result
  obtain ⟨read, readable⟩ := Option.filter_eq_some_iff.1 result
  obtain ⟨height, node, run, tail, spells, fits, denotes, rfl⟩ :=
    readConstruct_denotes (meets_imp (construct_proper (depth + 1)) spelled_of_node) place
      (proper_of_reachable reachable) read readable
  exact ⟨height, node, run, spells, fits, denotes⟩

/-- Whatever is remembered was found earlier in the run. -/
def Notes.Recalls (source : List Char) (notes : Notes) : Prop :=
  ∀ offset cs found, notes.known.lookup offset = some (some found) →
    Place source offset ('\x7b' :: cs) → ∃ past earlier, earlier.Reachable source ∧
      earlier.known.lookup offset = none ∧ (construct past offset cs earlier).1 = some found ∧
      (construct past offset cs earlier).2.Before notes

theorem before_refl (notes : Notes) : notes.Before notes := ⟨List.suffix_rfl, List.suffix_rfl⟩

theorem before_learn {earlier notes : Notes} (before : earlier.Before notes) (offset : Nat)
    (found : Option Converted) : earlier.Before (notes.learn offset found) :=
  ⟨before.known.trans (List.suffix_cons _ _), before.events⟩

theorem before_tell {earlier notes : Notes} (before : earlier.Before notes) (e : Event) :
    earlier.Before (notes.tell e) :=
  ⟨before.known, before.events.trans (List.suffix_cons _ _)⟩

theorem recalls_tell {notes : Notes} (recalls : notes.Recalls source) (e : Event) :
    (notes.tell e).Recalls source := by
  intro offset cs found known place
  obtain ⟨past, earlier, reached, unknown, finds, since⟩ := recalls offset cs found known place
  exact ⟨past, earlier, reached, unknown, finds, before_tell since e⟩

theorem recalls_learn {depth offset : Nat} {cs : List Char} {notes after : Notes}
    {found : Option Converted} (recalls : after.Recalls source)
    (place : Place source offset ('\x7b' :: cs)) (reachable : notes.Reachable source)
    (unknown : notes.known.lookup offset = none)
    (called : construct depth offset cs notes = (found, after.learn offset found)) :
    (after.learn offset found).Recalls source := by
  intro other ds f known there
  rw [Notes.learn, List.lookup_cons] at known
  split at known
  · rename_i same
    obtain rfl := beq_iff_eq.1 same
    obtain rfl := (List.cons.inj (place_unique place there)).2
    obtain rfl := Option.some.inj known
    refine ⟨depth, notes, reachable, unknown, congrArg Prod.fst called, ?_⟩
    rw [called]
    exact before_refl _
  · obtain ⟨past, earlier, reached, unknown, finds, since⟩ := recalls other ds f known there
    exact ⟨past, earlier, reached, unknown, finds, before_learn since offset found⟩

theorem construct_recalls (depth : Nat) :
    Meets source (fun notes => notes.Reachable source ∧ notes.Recalls source)
      (fun _ _ _ => True) (construct depth) := by
  induction depth using depth_induction with
  | step depth ih =>
  refine ⟨?_, fun _ _ _ => trivial⟩
  intro offset cs notes place before
  refine ⟨.read depth before.1 place, ?_⟩
  cases known : notes.known.lookup offset with
  | some remembered =>
    rw [construct_known depth cs known]
    exact before.2
  | none =>
    by_cases deep : maxDepth < depth
    · have called := construct_deep cs known deep
      have recalls := recalls_learn (recalls_tell before.2 _) place before.1 known called
      rwa [called]
    · have called := construct_read cs known deep
      have kept := (readConstruct_keeps (ih deep) (place_brace place) before).2
      have recalls := recalls_learn kept place before.1 known called
      rwa [called]

theorem recalls_of_reachable {notes : Notes} (reachable : notes.Reachable source) :
    notes.Recalls source := by
  induction reachable with
  | start =>
    intro offset cs found known
    cases known
  | read depth reached place ih => exact ((construct_recalls depth).keeps place ⟨reached, ih⟩).2
  | keep offset _ ih => exact recalls_tell ih _

theorem renderAll_full (scope : Scope) {out : BoundedText} (full : out.full = true)
    (ns : List Node) : (renderAll scope out ns).value = out := by
  cases ns with
  | nil => rfl
  | cons n ns =>
    rw [renderAll, if_pos full]
    rfl

theorem renderAll_single (scope : Scope) {out : BoundedText} (room : out.full = false)
    (n : Node) : (renderAll scope out [n]).value = (n.render scope out).value := by
  rw [renderAll, room]
  rfl

theorem parsed_empty {nodes : List Node}
    (parsed : parse Limits.default.depth (String.ofList []) = .ok nodes) : nodes = [] := by
  have read := outline_of_parse parsed
  rw [outline_nil] at read
  cases nodes with
  | nil => rfl
  | cons n ns => cases read

theorem restArms_rendered (scope : Scope) (out : BoundedText) {text : List Char}
    {nodes : List Node} (parsed : parse Limits.default.depth (String.ofList text) = .ok nodes) :
    ((restArms text (plainNodes nodes)).render scope out).value =
      (renderAll scope out nodes).value := by
  rw [restArms]
  split
  · rename_i empty
    subst empty
    rw [parsed_empty parsed]
    rfl
  · rw [Arms.render, plainNodes, renderAll_relocate]

variable {offset : Nat} {cs tail : List Char} {notes : Notes} {node : Node}
  {run : Scope → BoundedText → BoundedText}

theorem denotes_merged (denotes : Denotes inside offset notes cs node run tail) :
    merged [node] = [node] := by
  cases denotes <;> rfl

theorem denotes_rendered (denotes : Denotes inside offset notes cs node run tail) (scope : Scope)
    (out : BoundedText) : (renderAll scope out [node]).value = run scope out := by
  cases room : out.full with
  | true =>
    rw [renderAll_full scope room]
    cases denotes with
    | output _ _ =>
      dsimp only
      rw [BoundedText.write.eq_def, if_pos room]
      rfl
    | single _ _ =>
      dsimp only
      rw [renderAll_full scope room, ite_self]
    | double _ _ _ =>
      dsimp only
      rw [renderAll_full scope room, renderAll_full scope room, ite_self]
  | false =>
    rw [renderAll_single scope room]
    cases denotes with
    | output _ _ => rfl
    | @single _ _ _ _ head whenTrue _ _ _ =>
      rw [Node.render, Arms.render, Logged.value_bind, guard_holds, plainNodes,
        renderAll_relocate]
      dsimp only
      by_cases passed : head.accepts (head.target.evaluate scope).value = true
      · rw [if_pos passed, if_pos passed]
      · rw [if_neg passed, if_neg passed]
        rfl
    | @double _ _ _ _ _ _ head whenTrue whenFalse _ _ _ _ refused =>
      obtain ⟨_, _, parsed⟩ := refused
      rw [Node.render, Arms.render, Logged.value_bind, guard_holds, plainNodes,
        renderAll_relocate]
      dsimp only
      by_cases passed : head.accepts (head.target.evaluate scope).value = true
      · rw [if_pos passed, if_pos passed]
      · rw [if_neg passed, if_neg passed]
        exact restArms_rendered scope out parsed

theorem construct_parsed {depth : Nat} {found : Converted}
    (place : Place source offset ('\x7b' :: cs)) (reachable : notes.Reachable source)
    (result : (construct depth offset cs notes).1 = some found) :
    ∃ past earlier nodes node run, ReadWith source offset cs depth notes past earlier ∧
      parse Limits.default.depth (String.ofList found.text) = .ok nodes ∧
      plainNodes nodes = [node] ∧
      Denotes (construct (past + 1)) offset earlier cs node run (cs.drop found.length) := by
  obtain ⟨past, earlier, read, reached, unknown, finds⟩ : ∃ past earlier,
      ReadWith source offset cs depth notes past earlier ∧ earlier.Reachable source ∧
      earlier.known.lookup offset = none ∧ (construct past offset cs earlier).1 = some found := by
    cases known : notes.known.lookup offset with
    | none => exact ⟨depth, notes, .now known, reachable, known, result⟩
    | some remembered =>
      rw [construct_known depth cs known] at result
      obtain rfl : remembered = some found := result
      obtain ⟨past, earlier, reached, unknown, finds, since⟩ :=
        recalls_of_reachable reachable offset cs found known place
      have some : notes.known.lookup offset ≠ none := by simp [known]
      exact ⟨past, earlier, .earlier some reached unknown since, reached, unknown, finds⟩
  obtain ⟨height, node, run, spells, fits, denotes⟩ := found_denotes place reached unknown finds
  obtain ⟨nodes, parsed, same⟩ := parse_of_spells spells fits
  exact ⟨past, earlier, nodes, node, run, read, parsed, same.trans (denotes_merged denotes),
    denotes⟩

/-- A construct that is converted becomes one node, and the node is what the construct denotes by
its source, with the branches as they are read from their places one level deeper; so it renders to
the first branch when the value passes the check, and else to the second. -/
theorem converted_construct_meaning {source cs : List Char} {depth offset : Nat} {notes : Notes}
    {found : Converted} (place : Place source offset ('\x7b' :: cs))
    (reachable : notes.Reachable source)
    (result : (construct depth offset cs notes).1 = some found) :
    ∃ past earlier nodes node run, ReadWith source offset cs depth notes past earlier ∧
      parse Limits.default.depth (String.ofList found.text) = .ok nodes ∧
      plainNodes nodes = [node] ∧
      Denotes (construct (past + 1)) offset earlier cs node run (cs.drop found.length) ∧
      ∀ scope out, (renderAll scope out nodes).value = run scope out := by
  obtain ⟨past, earlier, nodes, node, run, read, parsed, same, denotes⟩ :=
    construct_parsed place reachable result
  refine ⟨past, earlier, nodes, node, run, read, parsed, same, denotes, fun scope out => ?_⟩
  rw [← renderAll_relocate noPosition, ← plainNodes, same]
  exact denotes_rendered denotes scope out

theorem converted_comparison_meaning :
    let cs :=
      "a.b::join('it\\'s',5)::=\"x\\\"y\"[\"\x7bc::trim\x7d \\\" \x7b\"||'no']\x7d".toList
    let text :=
      "\x7bif a.b|join('it\\'s', 5) = 'x\"y'\x7d\x7bc|trim\x7d \" \x7b\x7b\x7belse\x7dno\x7b/if\x7d"
    ∃ past earlier nodes node run, ReadWith ('\x7b' :: cs) 0 cs 0 ⟨[], []⟩ past earlier ∧
      parse Limits.default.depth text = .ok nodes ∧ plainNodes nodes = [node] ∧
      Denotes (construct (past + 1)) 0 earlier cs node run [] ∧
      ∀ scope out, (renderAll scope out nodes).value = run scope out := by
  intro cs text
  have result : (construct 0 0 cs ⟨[], []⟩).1 = some ⟨54, text.toList⟩ := by decide +kernel
  have meaning := converted_construct_meaning (place_start ('\x7b' :: cs)) .start result
  rwa [String.ofList_toList] at meaning

end TitleTemplate.Legacy
