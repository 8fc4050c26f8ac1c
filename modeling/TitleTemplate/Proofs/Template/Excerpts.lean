import Mathlib.Data.String.Basic
import TitleTemplate.Proofs.Template.Spelling

/-!
Excerpts of templates. The tokens of a template lie one after the other in the text, and where one
of them ends does not depend on how much comes after it. So the text from the beginning of one to
the end of another is read as the tokens between them in the whole.
-/
namespace TitleTemplate

def Span.slice (s : Span) (text : String) : String :=
  String.Pos.Raw.extract text ⟨s.start.offset⟩ ⟨s.stop.offset⟩

def Span.Covers (s : Span) (text part : List Char) : Prop :=
  ∃ before after, text = before ++ (part ++ after) ∧
    s = ⟨Position.first.after before, (Position.first.after before).after part⟩

theorem offset_after (p : Position) (cs : List Char) :
    (p.after cs).offset = p.offset + String.utf8Len cs := by
  induction cs generalizing p with
  | nil => rfl
  | cons c cs ih =>
    have one : (p.next c).offset = p.offset + c.utf8Size := by
      rw [Position.next]
      split <;> rfl
    change ((p.next c).after cs).offset = _
    rw [ih, one, String.utf8Len_cons]
    omega

theorem slice_of_covers {s : Span} {text : String} {part : List Char}
    (covers : s.Covers text.toList part) : s.slice text = String.ofList part := by
  obtain ⟨before, after, whole, rfl⟩ := covers
  have found := String.extract_of_valid before part after
  rw [List.append_assoc, ← whole, String.ofList_toList] at found
  rw [Span.slice, offset_after, offset_after, Position.first, offset_after, Nat.zero_add, found]

/-! The tokens between two tokens. -/

theorem head_of_front {x rest : List Char} (front : x <+: rest) {d : Char} (first : d ∈ x.head?) :
    d ∈ rest.head? := by
  obtain ⟨more, rfl⟩ := front
  cases x with
  | nil => cases first
  | cons e x => exact first

theorem noEscape_of_more {c : Char} {cs : List Char}
    (noEscape : ∀ d rest, c = '\\' → cs = d :: rest → False) (more : c = '\\' → cs ≠ []) :
    c ≠ '\\' := by
  intro escape
  obtain ⟨d, rest, shape⟩ := List.exists_cons_of_ne_nil (more escape)
  exact noEscape d rest escape shape

theorem enclosed_of_split {cs inner rest : List Char}
    (found : splitAtClose cs = some (inner, rest)) : Enclosed inner := by
  fun_induction splitAtClose cs generalizing inner rest with
  | case1 => cases found
  | case2 cs =>
    obtain ⟨rfl, rfl⟩ := Prod.mk.inj (Option.some.inj found)
    exact enclosed_nil
  | case3 c cs ih =>
    obtain ⟨⟨a, b⟩, later, same⟩ := Option.map_eq_some_iff.1 found
    obtain ⟨rfl, rfl⟩ := Prod.mk.inj same
    exact enclosed_append (a := ['\\', c]) (enclosed_escape c) (ih later)
  | case4 c cs notClose noEscape ih =>
    obtain ⟨⟨a, b⟩, later, same⟩ := Option.map_eq_some_iff.1 found
    obtain ⟨rfl, rfl⟩ := Prod.mk.inj same
    have plain := noEscape_of_more noEscape fun _ none => by simp [none, splitAtClose] at later
    exact enclosed_append (a := [c]) (enclosed_char notClose plain) (ih later)

namespace Token

theorem enclosed_of_scan {cs inner : List Char} (member : .expression inner ∈ scan cs) :
    Enclosed inner ∧ inner.head? ≠ some '\x7b' := by
  fun_induction scan cs with
  | case1 => cases member
  | case2 | case5 => simp at member
  | case3 c opens d after again ih => exact ih (by simpa using member)
  | case4 c opens d after single found rest split ih =>
    rcases List.mem_cons.1 member with same | later
    · obtain rfl := Token.expression.inj same
      refine ⟨enclosed_of_split split, ?_⟩
      have whole := splitAtClose_source split
      cases inner with
      | nil => simp
      | cons e inner =>
        obtain ⟨rfl, _⟩ := List.cons.inj whole
        rintro ⟨⟩
        exact single rfl
    · exact ih later
  | case6 c rest notOpen ih => exact ih (by simpa using member)

theorem scan_cut {cs : List Char} {t : Token} {ts : List Token} (scanned : scan cs = t :: ts) :
    ∃ rest, cs = t.source ++ rest ∧ scan rest = ts ∧
      ∀ x, x <+: rest → scan (t.source ++ x) = t :: scan x := by
  -- A token that turns the rest into text has nothing after it.
  have last : scan cs = [t] → ∃ rest, cs = t.source ++ rest ∧ scan rest = [] ∧
      ∀ x, x <+: rest → scan (t.source ++ x) = t :: scan x := by
    intro single
    have whole := scan_source cs
    rw [single, List.flatMap_cons, List.flatMap_nil, List.append_nil] at whole
    refine ⟨[], by rw [List.append_nil, whole], scan_nil, fun x front => ?_⟩
    rw [List.prefix_nil.1 front, List.append_nil, whole, single, scan_nil]
  cases cs with
  | nil =>
    rw [scan_nil] at scanned
    cases scanned
  | cons c rest =>
    cases opens : isOpen c with
    | false =>
      obtain ⟨w, tail, rfl, plain, stops⟩ := exists_run opens rest
      rw [← List.cons_append, scan_run plain stops] at scanned
      obtain ⟨rfl, rfl⟩ := List.cons.inj scanned
      exact ⟨tail, rfl, rfl, fun x front =>
        scan_run plain fun d first => stops d (head_of_front front first)⟩
    | true =>
      obtain rfl := isOpen_iff.1 opens
      cases rest with
      | nil =>
        have single := scan_open
        rw [single] at scanned
        obtain ⟨rfl, rfl⟩ := List.cons.inj scanned
        exact last single
      | cons d after =>
        cases again : isOpen d with
        | true =>
          obtain rfl := isOpen_iff.1 again
          rw [scan_braces] at scanned
          obtain ⟨rfl, rfl⟩ := List.cons.inj scanned
          exact ⟨after, rfl, rfl, fun x _ => scan_braces x⟩
        | false =>
          cases found : splitAtClose (d :: after) with
          | none =>
            have single := scan_unclosed again found
            rw [single] at scanned
            obtain ⟨rfl, rfl⟩ := List.cons.inj scanned
            exact last single
          | some parts =>
            obtain ⟨inner, rest⟩ := parts
            have expression := scan_closed again found
            obtain ⟨enclosed, single⟩ := enclosed_of_scan
              (by rw [expression]; exact List.mem_cons_self)
            rw [expression] at scanned
            obtain ⟨rfl, rfl⟩ := List.cons.inj scanned
            refine ⟨rest, ?_, rfl, fun x _ => scan_braced enclosed single x⟩
            rw [← splitAtClose_source found]
            simp [source]

theorem scan_front {cs : List Char} {ts us : List Token} (scanned : scan cs = ts ++ us) :
    ∃ rest, cs = ts.flatMap source ++ rest ∧ scan rest = us ∧ scan (ts.flatMap source) = ts := by
  induction ts generalizing cs with
  | nil => exact ⟨cs, rfl, scanned, scan_nil⟩
  | cons t ts ih =>
    obtain ⟨others, rfl, later, first⟩ := scan_cut scanned
    obtain ⟨rest, rfl, after, front⟩ := ih later
    refine ⟨rest, by rw [List.flatMap_cons, List.append_assoc], after, ?_⟩
    rw [List.flatMap_cons, first _ (List.prefix_append _ rest), front]

theorem scan_excerpt {cs : List Char} {ts us vs : List Token}
    (scanned : scan cs = ts ++ (us ++ vs)) : scan (us.flatMap source) = us := by
  obtain ⟨_, _, later, _⟩ := scan_front scanned
  obtain ⟨_, _, _, found⟩ := scan_front later
  exact found

theorem locate_append (p : Position) (ts us : List Token) :
    locate p (ts ++ us) = locate p ts ++ locate (p.after (ts.flatMap source)) us := by
  induction ts generalizing p with
  | nil => rfl
  | cons t ts ih =>
    rw [List.cons_append, locate, locate, ih, List.flatMap_cons, Position.after_append]
    rfl

theorem locate_eq_append {p : Position} {ts : List Token} {first second : List (Token × Span)}
    (located : locate p ts = first ++ second) :
    ∃ us vs, ts = us ++ vs ∧ first = locate p us ∧
      second = locate (p.after (us.flatMap source)) vs := by
  induction first generalizing p ts with
  | nil => exact ⟨[], ts, rfl, rfl, located.symm⟩
  | cons t first ih =>
    cases ts with
    | nil => cases located
    | cons u ts =>
      rw [locate] at located
      obtain ⟨rfl, later⟩ := List.cons.inj located
      obtain ⟨us, vs, rfl, rfl, rfl⟩ := ih later
      refine ⟨u :: us, vs, rfl, rfl, ?_⟩
      rw [List.flatMap_cons, Position.after_append]

end Token

theorem token_covers {template : String} {t : Token} {span : Span}
    (member : (t, span) ∈ Token.ofTemplate template) : span.Covers template.toList t.source := by
  obtain ⟨first, second, located⟩ := List.append_of_mem member
  obtain ⟨us, vs, scanned, _, here⟩ := Token.locate_eq_append located
  have source := Token.scan_source template.toList
  cases vs with
  | nil => cases here
  | cons v vs =>
    obtain ⟨same, _⟩ := List.cons.inj here
    obtain ⟨rfl, rfl⟩ := Prod.mk.inj same
    rw [scanned, List.flatMap_append, List.flatMap_cons] at source
    exact ⟨_, _, source.symm, rfl⟩

end TitleTemplate
