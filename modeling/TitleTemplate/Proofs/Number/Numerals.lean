import TitleTemplate.Proofs.Number.Order
import TitleTemplate.Value.Basic

/-!
The texts that spell numbers: an optional sign, then a word for infinity or digits with an optional
point and an optional exponent. These are exactly the texts that are read as numbers, but for those
that spell NaN, which is taken for no number.
-/
namespace TitleTemplate

inductive IsSign : List Char → Prop where
  | absent : IsSign []
  | plus : IsSign ['+']
  | minus : IsSign ['-']

theorem isDigit_iff {c : Char} : isDigit c = true ↔ 48 ≤ c.toNat ∧ c.toNat ≤ 57 := by
  have low : '0' ≤ c ↔ 48 ≤ c.toNat := UInt32.le_iff_toNat_le
  have high : c ≤ '9' ↔ c.toNat ≤ 57 := UInt32.le_iff_toNat_le
  rw [isDigit, digit?, ← low, ← high]
  by_cases both : '0' ≤ c ∧ c ≤ '9'
  · rw [if_pos both]
    exact ⟨fun _ => both, fun _ => rfl⟩
  · rw [if_neg both]
    simp only [Option.isSome_none, Bool.false_eq_true, both]

def AreDigits (cs : List Char) : Prop := ∀ c ∈ cs, isDigit c = true

inductive IsExponent : List Char → Prop where
  | absent : IsExponent []
  | written {mark : Char} {sign digits : List Char} (letter : mark = 'e' ∨ mark = 'E')
      (signed : IsSign sign) (some : digits ≠ []) (all : AreDigits digits) :
      IsExponent (mark :: (sign ++ digits))

/-- Digits with an optional point among, before or after them, then an optional exponent. -/
inductive IsDecimal : List Char → Prop where
  | whole {digits exponent : List Char} (some : digits ≠ []) (all : AreDigits digits)
      (power : IsExponent exponent) : IsDecimal (digits ++ exponent)
  | pointed {digits fraction exponent : List Char} (some : digits ≠ [] ∨ fraction ≠ [])
      (all : AreDigits digits) (all' : AreDigits fraction) (power : IsExponent exponent) :
      IsDecimal (digits ++ '.' :: (fraction ++ exponent))

def IsInfinity (cs : List Char) : Prop :=
  cs.map Binary64.asciiLower = "inf".toList ∨ cs.map Binary64.asciiLower = "infinity".toList

inductive IsNumeral : List Char → Prop where
  | infinity {sign word : List Char} (signed : IsSign sign) (named : IsInfinity word) :
      IsNumeral (sign ++ word)
  | decimal {sign digits : List Char} (signed : IsSign sign) (spelled : IsDecimal digits) :
      IsNumeral (sign ++ digits)

theorem splitSign_spec (cs : List Char) : ∃ sign, IsSign sign ∧ cs = sign ++ (splitSign cs).2 := by
  unfold splitSign
  split
  · exact ⟨['-'], .minus, rfl⟩
  · exact ⟨['+'], .plus, rfl⟩
  · exact ⟨[], .absent, rfl⟩

theorem splitSign_signed {sign rest : List Char} (signed : IsSign sign)
    (unsigned : ∀ c ∈ rest.head?, c ≠ '+' ∧ c ≠ '-') :
    splitSign (sign ++ rest) = (decide (sign = ['-']), rest) := by
  cases signed with
  | plus | minus => rfl
  | absent =>
    cases rest with
    | nil => rfl
    | cons c rest =>
      obtain ⟨notPlus, notMinus⟩ := unsigned c rfl
      rw [List.nil_append]
      unfold splitSign
      split <;> simp_all

theorem readNat_isSome_iff (cs : List Char) :
    (readNat? cs).isSome = true ↔ cs ≠ [] ∧ AreDigits cs := by
  rw [readNat?, AreDigits, ← List.all_eq_true]
  split <;> simp_all

theorem ne_of_isDigit {c d : Char} (digit : isDigit c = true) (other : isDigit d = false) :
    c ≠ d := by
  rintro rfl
  rw [digit] at other
  cases other

theorem AreDigits.head {cs : List Char} (all : AreDigits cs) : ∀ c ∈ cs.head?, isDigit c = true :=
  fun c first => all c (List.mem_of_mem_head? first)

theorem digits_taken {digits rest : List Char} (all : AreDigits digits)
    (ended : ∀ c ∈ rest.head?, isDigit c = false) :
    (digits ++ rest).takeWhile isDigit = digits ∧ (digits ++ rest).dropWhile isDigit = rest := by
  rw [List.takeWhile_append_of_pos all, List.dropWhile_append_of_pos all]
  cases rest with
  | nil => simp
  | cons c rest => simp [ended c rfl]

theorem digits_split (cs : List Char) : ∃ digits rest, cs = digits ++ rest ∧ AreDigits digits ∧
    ∀ c ∈ rest.head?, isDigit c = false := by
  induction cs with
  | nil => exact ⟨[], [], rfl, nofun, nofun⟩
  | cons c cs ih =>
    cases digit : isDigit c with
    | false => exact ⟨[], c :: cs, rfl, nofun, fun d first => Option.some_inj.1 first ▸ digit⟩
    | true =>
      obtain ⟨digits, rest, rfl, all, ended⟩ := ih
      exact ⟨c :: digits, rest, rfl, List.forall_mem_cons.2 ⟨digit, all⟩, ended⟩

namespace Binary64

theorem readExponent_isSome_iff (cs : List Char) :
    (readExponent? cs).isSome = true ↔ IsExponent cs := by
  cases cs with
  | nil => exact iff_of_true rfl .absent
  | cons mark cs =>
    by_cases letter : mark = 'e' ∨ mark = 'E'
    · have same : (readExponent? (mark :: cs)).isSome = (readNat? (splitSign cs).2).isSome := by
        rw [readExponent?, if_pos letter]
        simp only [Option.isSome_map]
        cases readNat? (splitSign cs).2 <;> rfl
      rw [same, readNat_isSome_iff]
      constructor
      · rintro ⟨some, all⟩
        obtain ⟨sign, signed, shape⟩ := splitSign_spec cs
        rw [shape]
        exact .written letter signed some all
      · intro spelled
        cases spelled with
        | written _ signed some all =>
          simp only [splitSign_signed signed fun c first =>
            ⟨ne_of_isDigit (all.head c first) (by decide),
              ne_of_isDigit (all.head c first) (by decide)⟩]
          exact ⟨some, all⟩
    · rw [readExponent?, if_neg letter]
      refine iff_of_false Bool.false_ne_true fun spelled => ?_
      cases spelled with
      | written letter' => exact letter letter'

theorem readDecimal_whole {digits rest : List Char} (all : AreDigits digits)
    (ended : ∀ c ∈ rest.head?, isDigit c = false ∧ c ≠ '.') :
    readDecimal? (digits ++ rest) =
      if digits = [] then none else (readExponent? rest).map (⟨ofDigits digits, ·⟩) := by
  obtain ⟨taken, left⟩ := digits_taken all fun c first => (ended c first).1
  simp only [readDecimal?, taken, left]
  split
  · exact absurd rfl (ended '.' rfl).2
  · simp only [and_true, List.append_nil, List.length_nil, Nat.cast_zero, sub_zero,
      Option.map_eq_bind]
    rfl

theorem readDecimal_pointed {digits fraction rest : List Char} (all : AreDigits digits)
    (all' : AreDigits fraction) (ended : ∀ c ∈ rest.head?, isDigit c = false) :
    readDecimal? (digits ++ '.' :: (fraction ++ rest)) =
      if digits = [] ∧ fraction = [] then none
      else (readExponent? rest).map (⟨ofDigits (digits ++ fraction), · - fraction.length⟩) := by
  obtain ⟨taken, left⟩ :=
    @digits_taken _ ('.' :: (fraction ++ rest)) all fun c first => by
      rw [← Option.some_inj.1 first]
      decide
  obtain ⟨taken', left'⟩ := digits_taken all' ended
  simp only [readDecimal?, taken, left, taken', left', Option.map_eq_bind]
  rfl

theorem exponent_head {cs : List Char} (power : IsExponent cs) :
    ∀ c ∈ cs.head?, isDigit c = false ∧ c ≠ '.' := by
  intro c first
  cases power with
  | absent => cases first
  | written letter =>
    rw [← Option.some_inj.1 first]
    rcases letter with rfl | rfl <;> decide

theorem readDecimal_isSome_iff (cs : List Char) :
    (readDecimal? cs).isSome = true ↔ IsDecimal cs := by
  constructor
  · intro read
    obtain ⟨digits, rest, rfl, all, ended⟩ := digits_split cs
    by_cases point : rest.head? = some '.'
    · obtain ⟨after, rfl⟩ : ∃ after, rest = '.' :: after := List.head?_eq_some_iff.1 point
      obtain ⟨fraction, exponent, rfl, all', ended'⟩ := digits_split after
      rw [readDecimal_pointed all all' ended'] at read
      split at read
      · cases read
      · rename_i some
        rw [Option.isSome_map, readExponent_isSome_iff] at read
        exact .pointed (by tauto) all all' read
    · rw [readDecimal_whole all fun c first => ⟨ended c first, by rintro rfl; exact point first⟩]
        at read
      split at read
      · cases read
      · rename_i some
        rw [Option.isSome_map, readExponent_isSome_iff] at read
        exact .whole some all read
  · intro spelled
    cases spelled with
    | whole some all power =>
      rw [readDecimal_whole all (exponent_head power), if_neg some, Option.isSome_map,
        readExponent_isSome_iff]
      exact power
    | pointed some all all' power =>
      rw [readDecimal_pointed all all' fun c first => (exponent_head power c first).1,
        if_neg (by tauto), Option.isSome_map, readExponent_isSome_iff]
      exact power

theorem decimal_head {cs : List Char} (spelled : IsDecimal cs) :
    ∃ c rest, cs = c :: rest ∧ (isDigit c = true ∨ c = '.') := by
  cases spelled with
  | @whole digits exponent some all power =>
    cases digits with
    | nil => exact absurd rfl some
    | cons c digits => exact ⟨c, _, rfl, .inl (all c List.mem_cons_self)⟩
  | @pointed digits fraction exponent some all =>
    cases digits with
    | nil => exact ⟨'.', _, rfl, .inr rfl⟩
    | cons c digits => exact ⟨c, _, rfl, .inl (all c List.mem_cons_self)⟩

theorem ofDecimal_ne_nan (p : Precision) (negative : Bool) (d : Decimal) :
    ofDecimal p negative d ≠ .nan := by
  simp only [ofDecimal, zero]
  split_ifs
  · exact Binary64.noConfusion
  · exact Binary64.noConfusion
  · exact Binary64.noConfusion
  · exact round_ne_nan _ _ _ _

theorem asciiLower_of_isDigit {c : Char} (digit : isDigit c = true) : asciiLower c = c := by
  have least : c ≤ '9' := by
    simp only [isDigit, digit?] at digit
    split at digit
    · rename_i between
      exact between.2
    · cases digit
  rw [asciiLower, if_neg]
  rintro ⟨upper, -⟩
  exact absurd (Char.le_trans upper least) (by decide)

theorem decimal_unsigned {cs : List Char} (spelled : IsDecimal cs) :
    (∀ c ∈ cs.head?, c ≠ '+' ∧ c ≠ '-') ∧ cs.map asciiLower ≠ "nan".toList ∧
      ¬ IsInfinity cs := by
  obtain ⟨c, rest, rfl, first⟩ := decimal_head spelled
  have same : asciiLower c = c := first.elim asciiLower_of_isDigit (by rintro rfl; rfl)
  have other : ∀ d, isDigit d = false → d ≠ '.' → c ≠ d := by
    rintro d noDigit noPoint rfl
    rcases first with digit | point
    · exact ne_of_isDigit digit noDigit rfl
    · exact noPoint point
  have letter : ∀ d tail, (c :: rest).map asciiLower = d :: tail → c = d := by
    intro d tail named
    rw [← same]
    exact (List.cons.inj named).1
  refine ⟨fun d isFirst => ?_, fun named => ?_, fun named => ?_⟩
  · rw [← Option.some_inj.1 isFirst]
    exact ⟨other '+' (by decide) (by decide), other '-' (by decide) (by decide)⟩
  · exact other 'n' (by decide) (by decide) (letter _ _ named)
  · exact other 'i' (by decide) (by decide) (named.elim (letter _ _) (letter _ _))

theorem infinity_unsigned {word : List Char} (named : IsInfinity word) :
    (∀ c ∈ word.head?, c ≠ '+' ∧ c ≠ '-') ∧ word.map asciiLower ≠ "nan".toList := by
  constructor
  · intro c first
    obtain ⟨rest, rfl⟩ := List.head?_eq_some_iff.1 first
    have letter : asciiLower c = 'i' := by
      rcases named with named | named <;> exact (List.cons.inj named).1
    constructor <;> rintro rfl <;> exact absurd letter (by decide)
  · intro same
    rcases named with named | named <;> exact absurd (same.symm.trans named) (by decide)

theorem read_infinity (p : Precision) {sign word : List Char} (signed : IsSign sign)
    (named : IsInfinity word) :
    read? p (sign ++ word) = some (.infinite (decide (sign = ['-']))) := by
  obtain ⟨unsigned, other⟩ := infinity_unsigned named
  rw [IsInfinity] at named
  simp only [read?, splitSign_signed signed unsigned, if_neg other, if_pos named]

theorem read_decimal (p : Precision) {sign digits : List Char} (signed : IsSign sign)
    (spelled : IsDecimal digits) :
    read? p (sign ++ digits) =
      (readDecimal? digits).map (ofDecimal p (decide (sign = ['-']))) := by
  obtain ⟨unsigned, notNaN, notInfinity⟩ := decimal_unsigned spelled
  rw [IsInfinity] at notInfinity
  simp only [read?, splitSign_signed signed unsigned, if_neg notNaN, if_neg notInfinity]

theorem isNaN_eq_false {x : Binary64} (some : x ≠ .nan) : x.isNaN = false := by
  cases x with
  | nan => exact absurd rfl some
  | _ => rfl

theorem read_isSome_iff (p : Precision) (cs : List Char) :
    ((read? p cs).filter (!·.isNaN)).isSome = true ↔ IsNumeral cs := by
  constructor
  · intro read
    obtain ⟨sign, signed, shape⟩ := splitSign_spec cs
    simp only [read?] at read
    generalize (splitSign cs).2 = body at shape read
    subst shape
    split_ifs at read with nan named
    · cases read
    · exact .infinity signed named
    · cases found : readDecimal? body with
      | none =>
        rw [found] at read
        cases read
      | some d => exact .decimal signed ((readDecimal_isSome_iff body).1 (found ▸ rfl))
  · intro spelled
    cases spelled with
    | infinity signed named =>
      rw [read_infinity p signed named]
      rfl
    | decimal signed spelled =>
      obtain ⟨d, found⟩ := Option.isSome_iff_exists.1 ((readDecimal_isSome_iff _).2 spelled)
      rw [read_decimal p signed spelled, found, Option.map_some, Option.filter_some,
        isNaN_eq_false (ofDecimal_ne_nan p _ d)]
      rfl

end Binary64
end TitleTemplate
