import TitleTemplate.Proofs.Template.Joining
import TitleTemplate.Proofs.Template.Tokens

/-!
Templates that are written one after the other. No token of the first changes when more text
follows, apart from a text at its end, which goes on; and when the first is complete nothing is open
after it, so the second is read as it is by itself, only further on.
-/
namespace TitleTemplate

namespace Position

def shift (base p : Position) : Position :=
  ⟨base.line + (p.line - 1), if p.line = 1 then base.column + p.column else p.column,
    base.offset + p.offset⟩

theorem shift_first (base : Position) : base.shift first = base := by
  simp [shift, first]

theorem next_line_pos {p : Position} (some : 0 < p.line) (c : Char) : 0 < (p.next c).line := by
  unfold next
  split
  · exact Nat.succ_pos _
  · exact some

theorem shift_next (base : Position) {p : Position} (some : 0 < p.line) (c : Char) :
    base.shift (p.next c) = (base.shift p).next c := by
  unfold next
  split
  · simp only [shift, mk.injEq]
    refine ⟨by omega, ?_, by omega⟩
    rw [if_neg]
    omega
  · simp only [shift, mk.injEq, true_and]
    refine ⟨?_, by omega⟩
    split
    · omega
    · rfl

theorem shift_after (base : Position) {p : Position} (some : 0 < p.line) (cs : List Char) :
    base.shift (p.after cs) = (base.shift p).after cs := by
  induction cs generalizing p with
  | nil => rfl
  | cons c cs ih =>
    have later := ih (next_line_pos some c)
    rw [shift_next base some] at later
    exact later

end Position

theorem aligned_shift (base : Position) : Aligned base.shift id .first base := by
  intro cs
  rw [Position.shift_after base Nat.one_pos, Position.shift_first]
  rfl

theorem condition_relocate_id (c : Condition) : c.relocate id = c := by
  induction c with
  | truthy operand span => rfl
  | compare left op right span => rfl
  | not inner span ih =>
    rw [Condition.relocate, ih]
    rfl
  | and left right span ihLeft ihRight =>
    rw [Condition.relocate, ihLeft, ihRight]
    rfl
  | or left right span ihLeft ihRight =>
    rw [Condition.relocate, ihLeft, ihRight]
    rfl

mutual

theorem node_relocate_id : ∀ n : Node, n.relocate id = n
  | .literal text span => rfl
  | .output operand span => rfl
  | .conditional arms span => by
    rw [Node.relocate, arms_relocate_id arms]
    rfl

theorem arms_relocate_id : ∀ arms : Arms, arms.relocate id = arms
  | .guarded guard body rest => by
    rw [Arms.relocate, condition_relocate_id, relocateNodes_id body, arms_relocate_id rest]
  | .otherwise body => by rw [Arms.relocate, relocateNodes_id body]
  | .done => rfl

theorem relocateNodes_id : ∀ ns : List Node, relocateNodes id ns = ns
  | [] => rfl
  | n :: ns => by rw [relocateNodes, node_relocate_id n, relocateNodes_id ns]

end

theorem block_relocate_id (b : OpenBlock) : b.relocate id = b := by
  obtain ⟨opened, finished, guard, body⟩ := b
  have sameGuard : Condition.relocate id = id := funext condition_relocate_id
  simp only [OpenBlock.relocate, condition_relocate_id, relocateNodes_id, sameGuard,
    Option.map_id, List.map_id']
  rfl

theorem progress_relocate_id (p : Progress) : p.relocate id = p := by
  have sameBlock : OpenBlock.relocate id = id := funext block_relocate_id
  rw [Progress.relocate, relocateNodes_id, sameBlock, List.map_id]

theorem relocated_id {α : Type} (x : Except Fault α) : relocated id id x = x := by
  cases x <;> rfl

def readFrom (limit : Nat) (place : Position) (p : Progress) (cs : List Char) :
    Except Fault Progress :=
  (Token.locate place (Token.scan cs)).foldlM (Progress.token limit) p

theorem tokens_relocate {f : Position → Position} {place target : Position}
    (aligned : Aligned f id place target) (limit : Nat) (ts : List Token) (p : Progress) :
    relocated f (Progress.relocate f) ((Token.locate place ts).foldlM (Progress.token limit) p) =
      (Token.locate target ts).foldlM (Progress.token limit) (p.relocate f) := by
  induction ts generalizing place target p with
  | nil => rfl
  | cons t ts ih =>
    have ends := aligned_after aligned t.source
    have spans : (⟨place, place.after t.source⟩ : Span).relocate f =
        (⟨target, target.after t.source⟩ : Span).relocate id := by
      rw [Span.relocate, aligned_here aligned, aligned_here ends]
      rfl
    have unchanged : Progress.relocate id = id := funext progress_relocate_id
    have same : relocated f (Progress.relocate f)
        (p.token limit (t, ⟨place, place.after t.source⟩)) =
          relocated id (Progress.relocate id)
            ((p.relocate f).token limit (t, ⟨target, target.after t.source⟩)) :=
      token_relocate (progress_relocate_id (p.relocate f)).symm spans aligned t
    rw [unchanged, relocated_id] at same
    exact relocated_bind same fun q _ => ih ends q

theorem readFrom_nil (limit : Nat) (place : Position) (p : Progress) :
    readFrom limit place p [] = .ok p := by
  rw [readFrom, Token.scan_nil]
  rfl

theorem readFrom_token {cs ds : List Char} {t : Token}
    (scanned : Token.scan cs = t :: Token.scan ds) (limit : Nat) (place : Position)
    (p : Progress) :
    readFrom limit place p cs =
      p.token limit (t, ⟨place, place.after t.source⟩) >>= fun q =>
        readFrom limit (place.after t.source) q ds := by
  rw [readFrom, scanned, Token.locate, List.foldlM_cons]
  rfl

theorem readFrom_text (limit : Nat) (place : Position) (p : Progress) {c : Char} {w : List Char}
    (plain : ∀ d ∈ c :: w, isOpen d = false) (tail : List Char) :
    readFrom limit place p (c :: w ++ tail) =
      readFrom limit (place.after (c :: w))
        (p.modifyBody (appendText (c :: w) ⟨place, place.after (c :: w)⟩)) tail := by
  by_cases more : ∃ d rest, tail = d :: rest ∧ isOpen d = false
  · obtain ⟨d, rest, rfl, notOpen⟩ := more
    obtain ⟨v, tail, rfl, others, stops⟩ := Token.exists_run notOpen rest
    have whole : ∀ e ∈ c :: (w ++ d :: v), isOpen e = false := by
      intro e member
      rcases List.mem_append.1 (List.cons_append ▸ member) with first | second
      · exact plain e first
      · exact others e second
    have scanned : Token.scan (c :: w ++ d :: (v ++ tail)) =
        .text (c :: w ++ d :: v) :: Token.scan tail := by
      simpa using Token.scan_run whole stops
    have continued : Token.scan (d :: (v ++ tail)) = .text (d :: v) :: Token.scan tail :=
      Token.scan_run others stops
    rw [readFrom_token scanned, readFrom_token continued]
    simp only [Progress.token, Token.source, bind, Except.bind]
    rw [modifyBody_modifyBody, Position.after_append]
    refine congrArg (readFrom limit _ · _) (congrArg p.modifyBody (funext fun body => ?_))
    rw [appendText_appendText]
  · have stops : ∀ d ∈ tail.head?, isOpen d = true := by
      intro d first
      cases tail with
      | nil => cases first
      | cons e rest =>
        obtain rfl := Option.some.inj first
        by_contra closed
        exact more ⟨e, rest, rfl, by simpa using closed⟩
    exact readFrom_token (Token.scan_run plain stops) limit place p

/-- A text whose last brace is closed, unless there is none that opens an expression. -/
def Terminated (cs : List Char) : Prop :=
  ∀ rest, (Token.scan cs).getLast? ≠ some (.text ('\x7b' :: rest))

theorem terminated_after {cs ds : List Char} {t : Token}
    (scanned : Token.scan cs = t :: Token.scan ds) (terminated : Terminated cs) :
    Terminated ds := by
  intro rest last
  refine terminated rest ?_
  rw [scanned, List.getLast?_cons, last]
  rfl

theorem readFrom_append (limit : Nat) (place : Position) (p : Progress) {cs : List Char}
    (terminated : Terminated cs) (more : List Char) :
    readFrom limit place p (cs ++ more) =
      readFrom limit place p cs >>= fun q => readFrom limit (place.after cs) q more := by
  induction size : cs.length using Nat.strongRecOn generalizing cs place p with
  | ind n ih =>
    -- A token that does not change when more follows it leaves a shorter text.
    have next : ∀ {ds t}, Token.scan cs = t :: Token.scan ds →
        Token.scan (cs ++ more) = t :: Token.scan (ds ++ more) → t.source ++ ds = cs →
        ds.length < n → readFrom limit place p (cs ++ more) =
          readFrom limit place p cs >>= fun q => readFrom limit (place.after cs) q more := by
      intro ds t scanned longer source shorter
      rw [readFrom_token scanned, readFrom_token longer, ← source, Position.after_append]
      cases p.token limit (t, ⟨place, place.after t.source⟩) with
      | error fault => rfl
      | ok q => exact ih _ shorter _ q (terminated_after scanned terminated) rfl
    cases cs with
    | nil =>
      rw [readFrom_nil]
      rfl
    | cons c rest =>
      cases opens : isOpen c with
      | false =>
        obtain ⟨w, tail, rfl, plain, stops⟩ := Token.exists_run opens rest
        have shorter : tail.length < n := by
          rw [← size, List.length_cons, List.length_append]
          omega
        have ends := terminated_after (Token.scan_run plain stops) terminated
        rw [← List.cons_append, List.append_assoc, readFrom_text limit place p plain,
          readFrom_text limit place p plain, ih _ shorter _ _ ends rfl, Position.after_append]
      | true =>
        obtain rfl := isOpen_iff.1 opens
        cases rest with
        | nil => exact absurd (by rw [Token.scan_open]; rfl) (terminated [])
        | cons d after =>
          cases again : isOpen d with
          | true =>
            obtain rfl := isOpen_iff.1 again
            refine next (Token.scan_braces after) (Token.scan_braces (after ++ more)) rfl ?_
            rw [← size]
            simp only [List.length_cons]
            omega
          | false =>
            cases found : splitAtClose (d :: after) with
            | none => exact absurd (by rw [Token.scan_unclosed again found]; rfl) (terminated _)
            | some parts =>
              obtain ⟨inner, after'⟩ := parts
              have source := splitAtClose_source found
              refine next (Token.scan_closed again found)
                (Token.scan_closed again (splitAtClose_append found more)) ?_ ?_
              · rw [← source]
                simp [Token.source]
              · have shorter := splitAtClose_length found
                rw [← size, List.length_cons]
                omega

def Progress.behind (ns : List Node) (p : Progress) : Progress :=
  { p with nodes := (joined ns p.nodes.reverse).reverse }

theorem behind_add (ns ms : List Node) (p : Progress) :
    (p.add ms).behind ns = (p.behind ns).add ms := by
  obtain ⟨nodes, blocks⟩ := p
  cases blocks with
  | nil => simp only [Progress.behind, Progress.add, Progress.modifyBody, List.reverse_reverse,
      joined_assoc]
  | cons b blocks => rfl

theorem place_behind (ns : List Node) (item : Item) (span : Span) (p : Progress) :
    relocated id (Progress.behind ns) (p.place item span) = (p.behind ns).place item span := by
  obtain ⟨nodes, blocks⟩ := p
  cases item with
  | output operand =>
    have added := behind_add ns [.output operand span] ⟨nodes, blocks⟩
    rw [add_single _ rfl, add_single _ rfl] at added
    exact congrArg Except.ok added
  | openIf guard => rfl
  | closeIf =>
    cases blocks with
    | nil => rfl
    | cons b blocks =>
      have added := behind_add ns [.conditional b.arms (b.opened.upTo span.stop)] ⟨nodes, blocks⟩
      rw [add_single _ rfl, add_single _ rfl] at added
      exact congrArg Except.ok added
  | elseIf guard =>
    cases blocks with
    | nil => rfl
    | cons b blocks =>
      obtain ⟨opened, finished, before, body⟩ := b
      cases before <;> rfl
  | otherwise =>
    cases blocks with
    | nil => rfl
    | cons b blocks =>
      obtain ⟨opened, finished, before, body⟩ := b
      cases before <;> rfl

theorem token_behind (ns : List Node) (limit : Nat) (t : Token × Span) (p : Progress) :
    relocated id (Progress.behind ns) (p.token limit t) = (p.behind ns).token limit t := by
  obtain ⟨t, span⟩ := t
  cases t with
  | text chars =>
    have added := behind_add ns [.literal (String.ofList chars) span] p
    rw [add_text, add_text] at added
    exact congrArg Except.ok added
  | brace =>
    have added := behind_add ns [.literal (String.ofList ['\x7b']) span] p
    rw [add_text, add_text] at added
    exact congrArg Except.ok added
  | expression inner =>
    simp only [Progress.token, expression_eq_takeIn, Progress.takeIn]
    have checked : relocated id id (p.checkDepth limit inner span) =
        (p.behind ns).checkDepth limit inner span := relocated_id _
    refine relocated_bind checked fun _ _ => ?_
    refine relocated_bind (relocated_id _) fun item _ => ?_
    exact place_behind ns item span p

theorem readFrom_behind (ns : List Node) (limit : Nat) (place : Position) (p : Progress)
    (cs : List Char) :
    relocated id (Progress.behind ns) (readFrom limit place p cs) =
      readFrom limit place (p.behind ns) cs := by
  have tokens : ∀ (ts : List (Token × Span)) (p : Progress),
      relocated id (Progress.behind ns) (ts.foldlM (Progress.token limit) p) =
        ts.foldlM (Progress.token limit) (p.behind ns) := by
    intro ts
    induction ts with
    | nil => exact fun p => rfl
    | cons t ts ih => exact fun p => relocated_bind (token_behind ns limit t p) fun q _ => ih q
  exact tokens _ p

theorem finish_behind (ns : List Node) (p : Progress) :
    relocated id (joined ns) p.finish = (p.behind ns).finish := by
  obtain ⟨nodes, blocks⟩ := p
  cases blocks with
  | nil =>
    simp only [Progress.finish, Progress.behind, relocated_ok, List.reverse_reverse]
  | cons b blocks => rfl

theorem finish_relocate (f : Position → Position) (p : Progress) :
    relocated f (relocateNodes f) p.finish = (p.relocate f).finish := by
  obtain ⟨nodes, blocks⟩ := p
  cases blocks with
  | nil => exact congrArg Except.ok (relocateNodes_reverse f nodes)
  | cons b blocks => rfl

theorem parse_after {limit : Nat} {s : String} {ns : List Node} (parsed : parse limit s = .ok ns)
    (terminated : Terminated s.toList) (t : String) :
    let shift := (Position.first.after s.toList).shift
    parse limit (s ++ t) =
      relocated id (joined ns) (relocated shift (relocateNodes shift) (parse limit t)) := by
  intro shift
  obtain ⟨p, read, finished⟩ := bind_eq_ok.1 parsed
  have begun : p = Progress.start.behind ns := by
    obtain ⟨nodes, blocks⟩ := p
    cases blocks with
    | nil =>
      obtain rfl := Except.ok.inj finished
      simp [Progress.behind, Progress.start]
    | cons b blocks => cases finished
  have whole : readFrom limit .first .start (s ++ t).toList =
      relocated id (Progress.behind ns) (relocated shift (Progress.relocate shift)
        (readFrom limit .first .start t.toList)) := by
    have moved : _ = readFrom limit (Position.first.after s.toList) .start t.toList :=
      tokens_relocate (aligned_shift (Position.first.after s.toList)) limit
        (Token.scan t.toList) .start
    have first : readFrom limit .first .start s.toList = .ok p := read
    rw [String.toList_append, readFrom_append limit .first .start terminated, first, begun]
    refine (readFrom_behind ns limit _ .start t.toList).symm.trans ?_
    rw [← moved]
    rfl
  have both : parse limit (s ++ t) =
      readFrom limit .first .start (s ++ t).toList >>= Progress.finish := rfl
  have second : parse limit t = readFrom limit .first .start t.toList >>= Progress.finish := rfl
  have inner : relocated shift (relocateNodes shift) (parse limit t) =
      relocated shift (Progress.relocate shift) (readFrom limit .first .start t.toList) >>=
        Progress.finish := by
    rw [second]
    exact relocated_bind rfl fun q _ => finish_relocate shift q
  rw [both, whole, inner]
  exact (relocated_bind rfl fun q _ => finish_behind ns q).symm

/-- After a template that is complete, and whose last brace is closed, another one is read as it is
by itself, further on: their nodes are joined, and so is what they render to; or the fault of the
second is the fault of both. -/
theorem parse_append (limit : Nat) (s t : String) {ns : List Node}
    (parsed : parse limit s = .ok ns) (terminated : Terminated s.toList) :
    let shift := (Position.first.after s.toList).shift
    (∀ ms, parse limit t = .ok ms →
        parse limit (s ++ t) = .ok (joined ns (relocateNodes shift ms)) ∧
          ∀ scope, rendered scope (joined ns (relocateNodes shift ms)) =
            rendered scope ns ++ rendered scope ms) ∧
      ∀ fault, parse limit t = .error fault →
        parse limit (s ++ t) = .error ⟨fault.cause, fault.span.relocate shift⟩ := by
  intro shift
  have whole : parse limit (s ++ t) =
      relocated id (joined ns) (relocated shift (relocateNodes shift) (parse limit t)) :=
    parse_after parsed terminated t
  constructor
  · intro ms read
    constructor
    · rw [whole, read]
      rfl
    · intro scope
      rw [rendered_joined, rendered_relocate]
  · intro fault refused
    rw [whole, refused]
    rfl

/-- A text goes on over the seam, and the line and the column with it. -/
theorem parse_append_text :
    let s := "a\n\x7b\x7bb"
    let t := "c\x7b/if\x7d"
    let ns : List Node := [.literal "a\n\x7bb" ⟨.first, ⟨2, 3, 5⟩⟩]
    parse 0 s = .ok ns ∧ Terminated s.toList ∧
      parse 0 (s ++ "c") = .ok [.literal "a\n\x7bbc" ⟨.first, ⟨2, 4, 6⟩⟩] ∧
      parse 0 (s ++ t) = .error ⟨.endOutside, ⟨⟨2, 4, 6⟩, ⟨2, 9, 11⟩⟩⟩ := by
  intro s t ns
  have before : Token.ofTemplate s = [(.text ['a', '\n'], ⟨.first, ⟨2, 0, 2⟩⟩),
      (.brace, ⟨⟨2, 0, 2⟩, ⟨2, 2, 4⟩⟩), (.text ['b'], ⟨⟨2, 2, 4⟩, ⟨2, 3, 5⟩⟩)] := by
    decide +kernel
  have letter : Token.ofTemplate "c" = [(.text ['c'], ⟨.first, ⟨1, 1, 1⟩⟩)] := by decide +kernel
  have stray : Token.ofTemplate t = [(.text ['c'], ⟨.first, ⟨1, 1, 1⟩⟩),
      (.expression "/if".toList, ⟨⟨1, 1, 1⟩, ⟨1, 6, 6⟩⟩)] := by decide +kernel
  have parsed : parse 0 s = .ok ns := by
    rw [parse, before]
    rfl
  have terminated : Terminated s.toList := by
    have last : (Token.scan s.toList).getLast? = some (.text ['b']) := by decide +kernel
    intro rest
    rw [last]
    simp
  have one : parse 0 "c" = .ok [.literal "c" ⟨.first, ⟨1, 1, 1⟩⟩] := by
    rw [parse, letter]
    rfl
  have other : parse 0 t = .error ⟨.endOutside, ⟨⟨1, 1, 1⟩, ⟨1, 6, 6⟩⟩⟩ := by
    rw [parse, stray]
    rfl
  have base : Position.first.after s.toList = ⟨2, 3, 5⟩ := by decide +kernel
  have text : "a\n\x7bb" ++ "c" = "a\n\x7bbc" := by decide +kernel
  have read := ((parse_append 0 s "c" parsed terminated).1 _ one).1
  have refused := (parse_append 0 s t parsed terminated).2 _ other
  rw [base] at read refused
  refine ⟨parsed, terminated, ?_, refused⟩
  rw [← text]
  exact read

end TitleTemplate
