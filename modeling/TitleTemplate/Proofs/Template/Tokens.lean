import Mathlib.Data.List.TakeWhile
import TitleTemplate.Template.Token

/-!
The tokens of a text. They are the text, cut into parts that are not empty, so there are never more
of them than characters.
-/
namespace TitleTemplate

theorem splitAtClose_source {cs inner rest : List Char}
    (found : splitAtClose cs = some (inner, rest)) : inner ++ '\x7d' :: rest = cs := by
  fun_induction splitAtClose cs generalizing inner rest with
  | case1 => cases found
  | case2 cs =>
    obtain ⟨rfl, rfl⟩ := Prod.mk.inj (Option.some.inj found)
    rfl
  | case3 c cs ih =>
    obtain ⟨⟨a, b⟩, later, same⟩ := Option.map_eq_some_iff.1 found
    obtain ⟨rfl, rfl⟩ := Prod.mk.inj same
    rw [List.cons_append, List.cons_append, ih later]
  | case4 c cs _ _ ih =>
    obtain ⟨⟨a, b⟩, later, same⟩ := Option.map_eq_some_iff.1 found
    obtain ⟨rfl, rfl⟩ := Prod.mk.inj same
    rw [List.cons_append, ih later]

theorem splitAtClose_append {cs inner rest : List Char}
    (found : splitAtClose cs = some (inner, rest)) (more : List Char) :
    splitAtClose (cs ++ more) = some (inner, rest ++ more) := by
  fun_induction splitAtClose cs generalizing inner rest with
  | case1 => cases found
  | case2 cs =>
    obtain ⟨rfl, rfl⟩ := Prod.mk.inj (Option.some.inj found)
    rw [List.cons_append, splitAtClose]
  | case3 c cs ih =>
    obtain ⟨⟨a, b⟩, later, same⟩ := Option.map_eq_some_iff.1 found
    obtain ⟨rfl, rfl⟩ := Prod.mk.inj same
    rw [List.cons_append, List.cons_append, splitAtClose, ih later]
    rfl
  | case4 c cs notClose noEscape ih =>
    obtain ⟨⟨a, b⟩, later, same⟩ := Option.map_eq_some_iff.1 found
    obtain ⟨rfl, rfl⟩ := Prod.mk.inj same
    cases cs with
    | nil => simp [splitAtClose] at later
    | cons d cs =>
      rw [List.cons_append, splitAtClose, ih later]
      · rfl
      · exact notClose
      · rintro e rest rfl same
        exact noEscape _ _ rfl rfl

theorem isOpen_iff {c : Char} : isOpen c = true ↔ c = '\x7b' := decide_eq_true_iff

namespace Token

theorem scan_nil : scan [] = [] := by rw [scan.eq_def]

theorem scan_text {c : Char} (notOpen : isOpen c = false) (rest : List Char) :
    scan (c :: rest) =
      .text (c :: rest.takeWhile (!isOpen ·)) :: scan (rest.dropWhile (!isOpen ·)) := by
  rw [scan.eq_def]
  simp only [notOpen, Bool.false_eq_true, ↓reduceIte]

theorem scan_run {c : Char} {w tail : List Char} (plain : ∀ d ∈ c :: w, isOpen d = false)
    (stops : ∀ d ∈ tail.head?, isOpen d = true) :
    scan (c :: w ++ tail) = .text (c :: w) :: scan tail := by
  have inside : ∀ d ∈ w, (!isOpen d) = true := by
    intro d member
    rw [plain d (List.mem_cons_of_mem c member)]
    rfl
  have nothing : tail.takeWhile (!isOpen ·) = [] ∧ tail.dropWhile (!isOpen ·) = tail := by
    cases tail with
    | nil => exact ⟨rfl, rfl⟩
    | cons d tail => simp [stops d rfl]
  rw [List.cons_append, scan_text (plain c List.mem_cons_self),
    List.takeWhile_append_of_pos inside, List.dropWhile_append_of_pos inside, nothing.1, nothing.2,
    List.append_nil]

theorem exists_run {c : Char} (notOpen : isOpen c = false) (rest : List Char) :
    ∃ w tail, rest = w ++ tail ∧ (∀ d ∈ c :: w, isOpen d = false) ∧
      ∀ d ∈ tail.head?, isOpen d = true := by
  refine ⟨rest.takeWhile (!isOpen ·), rest.dropWhile (!isOpen ·),
    List.takeWhile_append_dropWhile.symm, ?_, ?_⟩
  · intro d member
    rcases List.mem_cons.1 member with rfl | inside
    · exact notOpen
    · simpa using List.mem_takeWhile_imp inside
  · intro d first
    have stop := List.head?_dropWhile_not (!isOpen ·) rest
    rw [Option.mem_def.1 first] at stop
    simpa using stop

theorem scan_open : scan ['\x7b'] = [.text ['\x7b']] := by
  rw [scan.eq_def]
  rfl

theorem scan_braces (tail : List Char) :
    scan ('\x7b' :: '\x7b' :: tail) = .brace :: scan tail := by
  rw [scan.eq_def]
  simp [isOpen]

theorem scan_closed {d : Char} {after inner rest : List Char} (single : isOpen d = false)
    (found : splitAtClose (d :: after) = some (inner, rest)) :
    scan ('\x7b' :: d :: after) = .expression inner :: scan rest := by
  rw [scan.eq_def]
  simp only [isOpen_iff.2 rfl, single, Bool.false_eq_true, ↓reduceIte]
  split
  · rename_i other
    rw [found] at other
    obtain ⟨rfl, rfl⟩ := Prod.mk.inj (Option.some.inj other)
    rfl
  · rename_i other
    rw [found] at other
    cases other

theorem scan_unclosed {d : Char} {after : List Char} (single : isOpen d = false)
    (found : splitAtClose (d :: after) = none) :
    scan ('\x7b' :: d :: after) = [.text ('\x7b' :: d :: after)] := by
  rw [scan.eq_def]
  simp only [isOpen_iff.2 rfl, single, Bool.false_eq_true, ↓reduceIte]
  split
  · rename_i other
    rw [found] at other
    cases other
  · rfl

theorem scan_source (cs : List Char) : (scan cs).flatMap source = cs := by
  fun_induction scan cs with
  | case1 => rfl
  | case2 c opens => rfl
  | case3 c opens d after again ih =>
    simp only [isOpen, decide_eq_true_eq] at opens again
    rw [List.flatMap_cons, ih, source, opens, again]
    rfl
  | case4 c opens d after single inner rest found ih =>
    simp only [isOpen, decide_eq_true_eq] at opens
    rw [List.flatMap_cons, ih, source, opens, List.cons_append, List.append_assoc]
    exact congrArg _ (splitAtClose_source found)
  | case5 c opens d after single unclosed => simp [source]
  | case6 c rest notOpen ih =>
    rw [List.flatMap_cons, ih, source, List.cons_append, List.takeWhile_append_dropWhile]

theorem source_ne_nil {t : Token} {cs : List Char} (member : t ∈ scan cs) : t.source ≠ [] := by
  fun_induction scan cs with
  | case1 => cases member
  | case2 c opens =>
    obtain rfl := List.mem_singleton.1 member
    simp [source]
  | case3 c opens d after again ih =>
    rcases List.mem_cons.1 member with rfl | later
    · simp [source]
    · exact ih later
  | case4 c opens d after single inner rest found ih =>
    rcases List.mem_cons.1 member with rfl | later
    · simp [source]
    · exact ih later
  | case5 c opens d after single unclosed =>
    obtain rfl := List.mem_singleton.1 member
    simp [source]
  | case6 c rest notOpen ih =>
    rcases List.mem_cons.1 member with rfl | later
    · simp [source]
    · exact ih later

theorem scan_length (cs : List Char) : (scan cs).length ≤ cs.length := by
  have counted : ∀ ts : List Token, (∀ t ∈ ts, t.source ≠ []) →
      ts.length ≤ (ts.flatMap source).length := by
    intro ts some
    induction ts with
    | nil => exact Nat.le_refl 0
    | cons t ts ih =>
      have first := List.length_pos_iff.2 (some t List.mem_cons_self)
      have later := ih fun u member => some u (List.mem_cons_of_mem t member)
      rw [List.flatMap_cons, List.length_append, List.length_cons]
      omega
  have whole := counted (scan cs) fun t member => source_ne_nil member
  rwa [scan_source] at whole

theorem inner_length {cs inner : List Char} (member : .expression inner ∈ scan cs) :
    inner.length ≤ cs.length := by
  have part : (source (.expression inner)).Sublist ((scan cs).map source).flatten :=
    List.sublist_flatten_of_mem (List.mem_map_of_mem member)
  rw [← List.flatMap_def, scan_source] at part
  have fits := part.length_le
  rw [source, List.length_cons, List.length_append] at fits
  omega

theorem locate_tokens (p : Position) (ts : List Token) :
    (locate p ts).map Prod.fst = ts := by
  induction ts generalizing p with
  | nil => rfl
  | cons t ts ih => rw [locate, List.map_cons, ih]

end Token
end TitleTemplate
