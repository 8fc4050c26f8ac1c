import Mathlib.Data.List.Forall2
import TitleTemplate.Proofs.Legacy.Following
import TitleTemplate.Proofs.Legacy.Meaning

/-!
Whole templates. A brace begins a construct, an output that stays as it is, or nothing, and this
divides the source into segments. The text that is written for it is put together from them without
any of them being changed by the next: it is read as a template again, and it renders to the texts
of the segments one after the other.
-/
namespace TitleTemplate.Legacy

/-- What a segment is rendered to. Text and braces that begin nothing stand for themselves. -/
inductive Segment.Shows (scope : Scope) : Segment → String → Prop
  | verbatim (c : Char) : Shows scope (.verbatim c) (String.ofList [c])
  | rewritten {text : List Char} {nodes : List Node}
      (parsed : parse Limits.default.depth (String.ofList text) = .ok nodes) :
      Shows scope (.rewritten text) (rendered scope nodes)
  | kept {text : List Char} {nodes : List Node}
      (parsed : parse Limits.default.depth (String.ofList text) = .ok nodes) :
      Shows scope (.kept text) (rendered scope nodes)
  | brace : Shows scope .brace (String.ofList ['\x7b'])

/-- Whether an output that stays as it is begins behind a brace. -/
def StartsOutput (cs : List Char) : Prop :=
  ∃ inner tail, cs = inner ++ '\x7d' :: tail ∧ IsOutputSpan inner

/-- The segments of a source from an offset on, given what is known of it by then. -/
inductive Divides : Nat → List Char → Notes → List Segment → Prop
  | ended {offset : Nat} {notes : Notes} : Divides offset [] notes []
  | verbatim {offset : Nat} {c : Char} {rest : List Char} {notes : Notes}
      {segments : List Segment} (notOpen : c ≠ '\x7b')
      (later : Divides (offset + c.utf8Size) rest notes segments) :
      Divides offset (c :: rest) notes (.verbatim c :: segments)
  | rewritten {offset : Nat} {rest : List Char} {notes after : Notes} {found : Converted}
      {segments : List Segment} (here : construct 0 offset rest notes = (some found, after))
      (later : Divides (offset + 1 + byteSize (rest.take found.length)) (rest.drop found.length)
        after segments) :
      Divides offset ('\x7b' :: rest) notes (.rewritten found.text :: segments)
  | kept {offset : Nat} {inner rest : List Char} {notes after : Notes} {segments : List Segment}
      (nothing : construct 0 offset (inner ++ '\x7d' :: rest) notes = (none, after))
      (output : IsOutputSpan inner)
      (later : Divides (offset + byteSize (braced inner)) rest (after.tell (.keptSpan offset))
        segments) :
      Divides offset ('\x7b' :: (inner ++ '\x7d' :: rest)) notes (.kept (braced inner) :: segments)
  | brace {offset : Nat} {rest : List Char} {notes after : Notes} {segments : List Segment}
      (nothing : construct 0 offset rest notes = (none, after)) (noOutput : ¬StartsOutput rest)
      (later : Divides (offset + 1) rest after segments) :
      Divides offset ('\x7b' :: rest) notes (.brace :: segments)

theorem rendered_of_spells {height : Nat} {text : List Char} {ns : List Node}
    (spells : Spells Limits.default.depth height text ns) (fits : height ≤ Limits.default.depth) :
    ∃ nodes, parse Limits.default.depth (String.ofList text) = .ok nodes ∧
      ∀ scope, rendered scope nodes = shownAll scope ns := by
  obtain ⟨nodes, parsed, same⟩ := parse_of_spells spells fits
  refine ⟨nodes, parsed, fun scope => ?_⟩
  rw [← rendered_relocate noPosition, ← plainNodes, same, rendered_merged]

/-- What is written for segments spells nodes that show what the segments show. -/
def Reads (segments : List Segment) : Prop :=
  ∃ height nodes, height ≤ Limits.default.depth ∧
    Spells Limits.default.depth height (segments.flatMap Segment.written) nodes ∧
    ∀ scope, ∃ texts, List.Forall₂ (Segment.Shows scope) segments texts ∧
      shownAll scope nodes = String.join texts

theorem reads_nil : Reads [] :=
  ⟨0, [], Nat.zero_le _, spells_nil, fun _ => ⟨[], .nil, by rw [shownAll, String.join_nil]⟩⟩

theorem reads_cons {segment : Segment} {segments : List Segment} {height : Nat}
    {ns : List Node} (fits : height ≤ Limits.default.depth)
    (first : Spells Limits.default.depth height segment.written ns)
    (shows : ∀ scope, segment.Shows scope (shownAll scope ns)) (later : Reads segments) :
    Reads (segment :: segments) := by
  obtain ⟨k, ms, room, spells, rest⟩ := later
  refine ⟨max height k, ns ++ ms, Nat.max_le.2 ⟨fits, room⟩, ?_, fun scope => ?_⟩
  · rw [List.flatMap_cons]
    exact spells_append first spells
  · obtain ⟨texts, each, joined⟩ := rest scope
    refine ⟨shownAll scope ns :: texts, .cons (shows scope) each, ?_⟩
    rw [shownAll_append, joined, String.join_cons]

theorem shownAll_char (scope : Scope) (c : Char) :
    shownAll scope [charNode c] = String.ofList [c] := by
  rw [shownAll, shownAll, charNode, Node.shown, String.append_empty]

theorem reads_plain {segment : Segment} {segments : List Segment} {c : Char}
    (spells : Spells Limits.default.depth 0 segment.written [charNode c])
    (shows : ∀ scope, segment.Shows scope (String.ofList [c])) (later : Reads segments) :
    Reads (segment :: segments) := by
  refine reads_cons (Nat.zero_le _) spells (fun scope => ?_) later
  rw [shownAll_char]
  exact shows scope

variable {source : List Char}

theorem place_braced {offset : Nat} {inner rest : List Char}
    (place : Place source offset ('\x7b' :: (inner ++ '\x7d' :: rest))) :
    Place source (offset + byteSize (braced inner)) rest := by
  refine place_append ?_
  rwa [braced, List.cons_append, List.append_assoc]

theorem divides_reads {offset : Nat} {cs : List Char} {notes : Notes} {segments : List Segment}
    (divides : Divides offset cs notes segments) (place : Place source offset cs)
    (before : notes.Proper source) : Reads segments := by
  induction divides with
  | ended => exact reads_nil
  | @verbatim _ c _ _ _ notOpen _ ih =>
    have plain : isOpen c = false := by simpa [isOpen] using notOpen
    exact reads_plain (spells_char plain) (fun _ => .verbatim c) (ih (place_cons place) before)
  | @rewritten _ _ _ _ found _ here _ ih =>
    have kept := (construct_proper 0).keeps place before
    rw [here] at kept
    obtain ⟨height, node, spells, fits⟩ :=
      (construct_proper 0).finds place before (congrArg Prod.fst here)
    obtain ⟨nodes, parsed, shows⟩ := rendered_of_spells spells fits
    refine reads_cons fits spells (fun scope => ?_) (ih (place_drop place found.length) kept)
    rw [← shows scope]
    exact .rewritten parsed
  | kept nothing output _ ih =>
    have kept := (construct_proper 0).keeps place before
    rw [nothing] at kept
    obtain ⟨operand, spells⟩ := outputSpan_spells output
    obtain ⟨nodes, parsed, shows⟩ := rendered_of_spells spells (Nat.zero_le _)
    refine reads_cons (Nat.zero_le _) spells (fun scope => ?_) (ih (place_braced place) kept)
    rw [← shows scope]
    exact .kept parsed
  | brace nothing _ _ ih =>
    have kept := (construct_proper 0).keeps place before
    rw [nothing] at kept
    exact reads_plain spells_brace (fun _ => .brace) (ih (place_brace place) kept)

theorem keptSpan_eq_none {cs : List Char} : keptSpan cs = none ↔ ¬StartsOutput cs := by
  rw [Option.eq_none_iff_forall_ne_some]
  constructor
  · rintro none ⟨inner, tail, rfl, span⟩
    exact none _ (keptSpan_iff.2 ⟨inner, tail, rfl, rfl, span⟩)
  · intro none n kept
    obtain ⟨inner, tail, rfl, _, span⟩ := keptSpan_iff.1 kept
    exact none ⟨inner, tail, rfl, span⟩

theorem span_stop (offset : Nat) (inner rest : List Char) :
    offset + 1 + byteSize ((inner ++ '\x7d' :: rest).take (inner.length + 1)) =
      offset + byteSize (braced inner) := by
  rw [take_span, braced, byteSize_cons, Nat.add_assoc]
  rfl

theorem drop_span (inner rest : List Char) :
    (inner ++ '\x7d' :: rest).drop (inner.length + 1) = rest := by
  rw [List.drop_length_add_append]
  rfl

theorem segmentsFrom_divides (offset : Nat) (cs : List Char) (notes : Notes) :
    Divides offset cs notes (segmentsFrom (construct 0) offset cs notes).1 := by
  fun_induction segmentsFrom (construct 0) offset cs notes with
  | case1 => exact .ended
  | case2 offset notes rest found after read start segments last later ih =>
    rw [later] at ih
    exact .rewritten read ih
  | case3 offset notes rest after read n span start told segments last later ih =>
    rw [later] at ih
    obtain ⟨inner, tail, rfl, rfl, output⟩ := keptSpan_iff.1 span
    have stop : start = offset + byteSize (braced inner) := span_stop offset inner tail
    rw [drop_span, stop] at ih
    rw [take_span]
    exact .kept read output ih
  | case4 offset notes rest after read none segments last later ih =>
    rw [later] at ih
    exact .brace read (keptSpan_eq_none.1 none) ih
  | case5 offset notes c rest plain segments last later ih =>
    rw [later] at ih
    exact .verbatim plain ih

/-- A source is divided in one way, and this is how the conversion goes through it. -/
theorem divides_iff {offset : Nat} {cs : List Char} {notes : Notes} {segments : List Segment} :
    Divides offset cs notes segments ↔
      segments = (segmentsFrom (construct 0) offset cs notes).1 := by
  constructor
  · intro divides
    induction divides with
    | ended => rw [segmentsFrom]
    | verbatim notOpen _ ih => rw [segmentsFrom_char _ _ notOpen, ← ih]
    | rewritten here _ ih => rw [segmentsFrom_brace, here, ih]
    | @kept _ inner rest _ _ _ nothing output _ ih =>
      have span := keptSpan_iff.2 ⟨inner, rest, rfl, rfl, output⟩
      rw [segmentsFrom_brace, nothing, span, ih]
      dsimp only
      rw [drop_span, span_stop, take_span, braced]
    | brace nothing noOutput _ ih =>
      rw [segmentsFrom_brace, nothing, keptSpan_eq_none.2 noOutput, ih]
  · rintro rfl
    exact segmentsFrom_divides offset cs notes

def Notes.Barren (notes : Notes) : Prop :=
  ∀ offset found, notes.known.lookup offset = some found → found = none

theorem barren_start : Notes.Barren ⟨[], []⟩ := fun _ _ known => by cases known

theorem barren_learn {notes : Notes} (barren : notes.Barren) (offset : Nat) :
    (notes.learn offset none).Barren := by
  intro other found known
  rw [Notes.learn, List.lookup_cons] at known
  split at known
  · exact (Option.some.inj known).symm
  · exact barren other found known

/-- No brace of a source begins a construct or an output that stays as it is. -/
structure NothingBegins (source : List Char) : Prop where
  noConstruct : ∀ {offset : Nat} {rest : List Char}, Place source offset ('\x7b' :: rest) →
    (construct 0 offset rest ⟨[], []⟩).1 = none
  noOutput : ∀ {offset : Nat} {rest : List Char}, Place source offset ('\x7b' :: rest) →
    ¬StartsOutput rest

def idleAt (source : List Char) (index : Nat) : Bool :=
  match source.drop index with
  | '\x7b' :: rest =>
    (construct 0 (byteSize (source.take index)) rest ⟨[], []⟩).1.isNone && (keptSpan rest).isNone
  | _ => true

theorem nothingBegins_iff :
    NothingBegins source ↔ ∀ index ∈ List.range source.length, idleAt source index = true := by
  constructor
  · intro idle index _
    rw [idleAt]
    split
    · rename_i rest brace
      have place : Place source (byteSize (source.take index)) ('\x7b' :: rest) :=
        ⟨source.take index, by rw [← brace, List.take_append_drop], rfl⟩
      rw [idle.noConstruct place, keptSpan_eq_none.2 (idle.noOutput place)]
      rfl
    · rfl
  · intro all
    have each : ∀ {offset rest}, Place source offset ('\x7b' :: rest) →
        (construct 0 offset rest ⟨[], []⟩).1 = none ∧ keptSpan rest = none := by
      rintro _ rest ⟨before, rfl, rfl⟩
      have idle := all before.length (List.mem_range.2 (by simp))
      rw [idleAt, List.drop_left, List.take_left] at idle
      obtain ⟨noConstruct, noOutput⟩ := Bool.and_eq_true_iff.1 idle
      exact ⟨Option.isNone_iff_eq_none.1 noConstruct, Option.isNone_iff_eq_none.1 noOutput⟩
    exact ⟨fun place => (each place).1, fun place => keptSpan_eq_none.1 (each place).2⟩

instance : Decidable (NothingBegins source) := decidable_of_iff _ nothingBegins_iff.symm

theorem byteSize_blanks (n : Nat) : byteSize (List.replicate n ' ') = n := by
  induction n with
  | zero => rfl
  | succ n ih =>
    rw [List.replicate_succ, byteSize_cons, ih, Nat.add_comm]
    rfl

/-- A brace behind blanks that take the place of what stands before in the source. -/
theorem place_behind {offset other : Nat} {cs rest : List Char}
    (place : Place source (offset + 1) cs)
    (there : Place (List.replicate (offset + 1) ' ' ++ cs) other ('\x7b' :: rest)) :
    Place source other ('\x7b' :: rest) ∧ rest.length < cs.length := by
  obtain ⟨before, shape, rfl⟩ := there
  obtain ⟨front, rfl, rfl⟩ : ∃ front, before = List.replicate (offset + 1) ' ' ++ front ∧
      cs = front ++ '\x7b' :: rest := by
    rcases List.append_eq_append_iff.1 shape with ⟨front, same, later⟩ | ⟨blanks, same, later⟩
    · exact ⟨front, same, later⟩
    · cases blanks with
      | nil => exact ⟨[], by simpa using same.symm, later.symm⟩
      | cons c blanks =>
        obtain ⟨rfl, _⟩ := List.cons.inj later
        have blank : '\x7b' ∈ List.replicate (offset + 1) ' ' := by simp [same]
        exact absurd (List.eq_of_mem_replicate blank) (by decide)
  constructor
  · rw [byteSize_append, byteSize_blanks]
    exact place_append place
  · rw [List.length_append, List.length_cons]
    omega

/-- Where no construct begins when nothing has been read, none begins ever, at any depth. -/
theorem construct_nothing (idle : NothingBegins source) {depth offset : Nat} {cs : List Char}
    {notes : Notes} (place : Place source offset ('\x7b' :: cs)) (barren : notes.Barren) :
    (construct depth offset cs notes).1 = none ∧ (construct depth offset cs notes).2.Barren := by
  induction size : cs.length using Nat.strong_induction_on generalizing depth offset cs notes with
  | _ length ih =>
  cases known : notes.known.lookup offset with
  | some found =>
    rw [construct_known depth cs known]
    exact ⟨barren offset found known, barren⟩
  | none =>
    by_cases deep : maxDepth < depth
    · rw [construct_deep cs known deep]
      exact ⟨rfl, barren_learn barren offset⟩
    · -- Only braces behind this one are met, and there is less behind them.
      have follows : Follows (List.replicate (offset + 1) ' ' ++ cs)
          (fun m n => m.Barren ∧ n.Barren) (fun _ => True) (construct (depth + 1))
          (construct 1) := by
        rintro other rest m n there ⟨first, second⟩ _
        obtain ⟨within, shorter⟩ := place_behind (place_brace place) there
        obtain ⟨none, after⟩ := ih rest.length (size ▸ shorter) within first rfl
        obtain ⟨noneToo, afterToo⟩ := ih rest.length (size ▸ shorter) within second rfl
        exact ⟨none.trans noneToo.symm, after, afterToo⟩
      have behind : Place (List.replicate (offset + 1) ' ' ++ cs) (offset + 1) cs :=
        ⟨_, rfl, (byteSize_blanks _).symm⟩
      obtain ⟨same, after, _⟩ := readConstruct_follows follows
        ⟨fun _ bad => absurd trivial bad, fun _ bad => absurd trivial bad⟩ behind
        ⟨barren, barren_start⟩ trivial
      have nothing := idle.noConstruct place
      rw [construct_read cs rfl (Nat.not_lt_zero maxDepth)] at nothing
      rw [construct_read cs known deep]
      dsimp only at nothing ⊢
      rw [same, nothing]
      exact ⟨rfl, barren_learn after offset⟩

theorem divides_idle {scope : Scope} (idle : NothingBegins source) {offset : Nat} {cs : List Char}
    {notes : Notes} {segments : List Segment} (divides : Divides offset cs notes segments)
    (place : Place source offset cs) (barren : notes.Barren) {texts : List String}
    (each : List.Forall₂ (Segment.Shows scope) segments texts) :
    String.join texts = String.ofList cs := by
  induction divides generalizing texts with
  | ended =>
    cases each
    rfl
  | verbatim _ _ ih =>
    obtain _ | ⟨⟨⟩, later⟩ := each
    rw [String.join_cons, ih (place_cons place) barren later]
    exact String.ofList_append.symm
  | @rewritten offset rest notes _ _ _ here _ _ =>
    have nothing : (construct 0 offset rest notes).1 = none :=
      (construct_nothing idle place barren).1
    rw [here] at nothing
    cases nothing
  | kept _ output _ _ => exact absurd ⟨_, _, rfl, output⟩ (idle.noOutput place)
  | @brace offset rest notes _ _ nothing _ _ ih =>
    obtain _ | ⟨⟨⟩, later⟩ := each
    have after : (construct 0 offset rest notes).2.Barren :=
      (construct_nothing idle place barren).2
    rw [nothing] at after
    rw [String.join_cons, ih (place_brace place) after later]
    exact String.ofList_append.symm

/-- What the conversion writes is a template. -/
theorem converted_template_parses (template : String) :
    ∃ nodes, parse Limits.default.depth (convert template).value = .ok nodes := by
  obtain ⟨height, ns, fits, spells, _⟩ :=
    divides_reads (segmentsFrom_divides 0 template.toList ⟨[], []⟩) (place_start _) fitting_start
  obtain ⟨nodes, parsed, _⟩ := parse_of_spells spells fits
  exact ⟨nodes, parsed⟩

/-- There is one way to divide a template, and converted it renders to the texts of the segments in
order; so when no brace begins anything, it renders to the template as it was. -/
theorem converted_template_rendered (template : String) :
    ∃ segments nodes,
      (∀ others, Divides 0 template.toList ⟨[], []⟩ others ↔ others = segments) ∧
      parse Limits.default.depth (convert template).value = .ok nodes ∧
      ∀ scope, ∃ texts, List.Forall₂ (Segment.Shows scope) segments texts ∧
        rendered scope nodes = String.join texts ∧
        (NothingBegins template.toList → rendered scope nodes = template) := by
  have divides := segmentsFrom_divides 0 template.toList ⟨[], []⟩
  obtain ⟨height, ns, fits, spells, shows⟩ :=
    divides_reads divides (place_start _) fitting_start
  obtain ⟨nodes, parsed, same⟩ := rendered_of_spells spells fits
  refine ⟨_, nodes, fun others => divides_iff, parsed, fun scope => ?_⟩
  obtain ⟨texts, each, joined⟩ := shows scope
  refine ⟨texts, each, (same scope).trans joined, fun idle => ?_⟩
  rw [same, joined, divides_idle idle divides (place_start _) barren_start each,
    String.ofList_toList]

/-- Braces that are doubled, closed nowhere, or followed by no construct and no output. -/
theorem converted_stray_braces :
    let template := "x\\\x7b\x7b \x7d'\x7b\"\x7ba b\x7d\x7b"
    ∃ nodes, parse Limits.default.depth (convert template).value = .ok nodes ∧
      ∀ scope, rendered scope nodes = template := by
  intro template
  have idle : NothingBegins template.toList := by decide +kernel
  obtain ⟨_, nodes, _, parsed, shows⟩ := converted_template_rendered template
  refine ⟨nodes, parsed, fun scope => ?_⟩
  obtain ⟨_, _, _, whole⟩ := shows scope
  exact whole idle

end TitleTemplate.Legacy
