import TitleTemplate.Legacy.Head
import TitleTemplate.Proofs.Number.Numerals
import TitleTemplate.Proofs.Template.Lexing
import TitleTemplate.Proofs.Text.Division

/-!
What is written without quotes is a word: the segments of paths, the names of modifiers, and every
text that reads as a number.
-/
namespace TitleTemplate

/-- The code points of the ranges that the boundaries open and close. -/
def rangeCodes : List Nat → List Nat
  | a :: b :: bs => List.range' a (b - a) ++ rangeCodes bs
  | _ => []

theorem mem_rangeCodes {bs : List Nat} {n : Nat} (closed : bs.length % 2 = 0)
    (inside : CharSet.crossed false bs n = true) : n ∈ rangeCodes bs := by
  induction bs using rangeCodes.induct with
  | case1 a b bs ih =>
    rw [rangeCodes, List.mem_append, List.mem_range'_1]
    rw [CharSet.crossed] at inside
    by_cases below : n < a
    · rw [if_pos below] at inside
      cases inside
    · rw [if_neg below, CharSet.crossed] at inside
      by_cases within : n < b
      · exact Or.inl ⟨by omega, by omega⟩
      · rw [if_neg within] at inside
        refine Or.inr (ih ?_ inside)
        rw [List.length_cons, List.length_cons] at closed
        omega
  | case2 bs short =>
    cases bs with
    | nil => cases inside
    | cons a bs =>
      cases bs with
      | nil => cases closed
      | cons b bs => exact absurd rfl (short a b bs)

theorem blank_not_alphanumeric {c : Char} (blank : isBlank c = true) :
    isAlphanumeric c = false := by
  have none : ∀ n ∈ rangeCodes blankChars.boundaries,
      (CharSet.crossed false alphabeticChars.boundaries n ||
        CharSet.crossed false numeralChars.boundaries n) = false := by
    decide +kernel
  exact none c.toNat (mem_rangeCodes rfl blank)

theorem isWordChar_of_alphanumeric {c : Char} (letter : isAlphanumeric c = true) :
    isWordChar c = true := by
  have noBlank : isBlank c = false := by
    by_contra blank
    rw [Bool.not_eq_false] at blank
    rw [blank_not_alphanumeric blank] at letter
    cases letter
  have noMark : (['|', '(', ')', ',', '=', '!', '<', '>', '~', '\'', '"', '\\', '\x7b',
      '\x7d'].all fun d => !isAlphanumeric d) = true := by
    decide +kernel
  have other : c ∉ ['|', '(', ')', ',', '=', '!', '<', '>', '~', '\'', '"', '\\', '\x7b',
      '\x7d'] := by
    intro member
    have none := List.all_eq_true.1 noMark c member
    rw [letter] at none
    cases none
  simp only [List.mem_cons, List.not_mem_nil, not_or] at other
  rw [isWordChar_iff, endsWordAt, noBlank]
  simp [other]

theorem isWordChar_of_segment {c : Char} (segment : isSegmentChar c = true) :
    isWordChar c = true := by
  rw [isSegmentChar, Bool.or_eq_true, decide_eq_true_iff] at segment
  rcases segment with letter | mark
  · exact isWordChar_of_alphanumeric letter
  · have marks : ['_', '-', '$', '@'].all isWordChar = true := by decide
    exact List.all_eq_true.1 marks c mark

theorem word_of_segments {cs : List Char} (valid : (splitAtChar '.' cs).all isSegment = true) :
    cs ≠ [] ∧ ∀ c ∈ cs, isWordChar c = true := by
  constructor
  · rintro rfl
    exact absurd valid (by decide)
  · intro c member
    have place : c = '.' ∨ ∃ part ∈ splitAtChar '.' cs, c ∈ part := mem_splitAtChar member
    rcases place with rfl | ⟨part, found, inside⟩
    · decide
    · have segment := List.all_eq_true.1 valid part found
      rw [isSegment, Bool.and_eq_true] at segment
      exact isWordChar_of_segment (List.all_eq_true.1 segment.2 c inside)

theorem ascii_word {c : Char} (ascii : c.toNat < 128)
    (kind : c.isAlphanum = true ∨ c ∈ ['_', '+', '-', '.']) : isWordChar c = true := by
  have each : ∀ n < 128, (Char.ofNat n).isAlphanum = true ∨ Char.ofNat n ∈ ['_', '+', '-', '.'] →
      isWordChar (Char.ofNat n) = true := by
    decide +kernel
  have found := each c.toNat ascii
  rw [Char.ofNat_toNat] at found
  exact found kind

theorem isWordChar_of_step {c : Char} (step : Legacy.isStepChar c = true) :
    isWordChar c = true := by
  rw [Legacy.isStepChar, Bool.or_eq_true, decide_eq_true_iff] at step
  rcases step with letter | rfl
  · refine ascii_word ?_ (Or.inl letter)
    delta Char.isAlphanum Char.isAlpha Char.isUpper Char.isLower Char.isDigit at letter
    simp only [Bool.or_eq_true, Bool.and_eq_true, decide_eq_true_iff,
      UInt32.le_iff_toNat_le] at letter
    have same : c.val.toNat = c.toNat := rfl
    have upper : 'Z'.val.toNat = 90 := rfl
    have lower : 'z'.val.toNat = 122 := rfl
    have digit : '9'.val.toNat = 57 := rfl
    omega
  · decide

def isNumberChar (c : Char) : Bool := isDigit c || c ∈ ['+', '-', '.', 'e', 'E']

theorem isWordChar_of_number {c : Char} (number : isNumberChar c = true) :
    isWordChar c = true := by
  rw [isNumberChar, Bool.or_eq_true, decide_eq_true_iff] at number
  rcases number with digit | mark
  · have range := isDigit_iff.1 digit
    refine ascii_word (by omega) (Or.inl ?_)
    simp only [Char.isAlphanum, Char.isDigit, Bool.or_eq_true, Bool.and_eq_true,
      decide_eq_true_iff, UInt32.le_iff_toNat_le]
    exact Or.inr range
  · have marks : ['+', '-', '.', 'e', 'E'].all isWordChar = true := by decide
    exact List.all_eq_true.1 marks c mark

theorem readNat_chars {cs : List Char} {n : Nat} (read : readNat? cs = some n) :
    cs ≠ [] ∧ ∀ c ∈ cs, isNumberChar c = true := by
  rw [readNat?] at read
  split at read
  · rename_i digits
    refine ⟨digits.1, fun c member => ?_⟩
    rw [isNumberChar, List.all_eq_true.1 digits.2 c member, Bool.true_or]
  · cases read

theorem splitSign_chars {cs : List Char}
    (number : ∀ c ∈ (splitSign cs).2, isNumberChar c = true) :
    ∀ c ∈ cs, isNumberChar c = true := by
  intro c member
  unfold splitSign at number
  split at number
  · rcases List.mem_cons.1 member with rfl | later
    · decide
    · exact number c later
  · rcases List.mem_cons.1 member with rfl | later
    · decide
    · exact number c later
  · exact number c member

theorem splitSign_ne_nil {cs : List Char} (some : (splitSign cs).2 ≠ []) : cs ≠ [] := by
  rintro rfl
  exact some rfl

theorem readInt_chars {bits : Nat} {cs : List Char} {n : Int} (read : readInt? bits cs = some n) :
    cs ≠ [] ∧ ∀ c ∈ cs, isNumberChar c = true := by
  obtain ⟨value, digits, _⟩ := Option.bind_eq_some_iff.1 read
  have found : readNat? (splitSign cs).2 = .some value := digits
  obtain ⟨some, number⟩ := readNat_chars found
  exact ⟨splitSign_ne_nil some, splitSign_chars number⟩

theorem readExponent_chars {cs : List Char} {e : Int} (read : Binary64.readExponent? cs = some e) :
    ∀ c ∈ cs, isNumberChar c = true := by
  cases cs with
  | nil => simp
  | cons c cs =>
    rw [Binary64.readExponent?] at read
    split at read
    · rename_i mark
      obtain ⟨_, read, _⟩ := Option.map_eq_some_iff.1 read
      obtain ⟨value, digits, _⟩ := Option.bind_eq_some_iff.1 read
      have found : readNat? (splitSign cs).2 = some value := digits
      intro d member
      rcases List.mem_cons.1 member with rfl | later
      · rcases mark with rfl | rfl <;> decide
      · exact splitSign_chars (readNat_chars found).2 d later
    · cases read

theorem readDecimal_chars {cs : List Char} {d : Decimal}
    (read : Binary64.readDecimal? cs = some d) :
    cs ≠ [] ∧ ∀ c ∈ cs, isNumberChar c = true := by
  have digits : ∀ ds : List Char, ∀ c ∈ ds.takeWhile isDigit, isNumberChar c = true := by
    intro ds c member
    rw [isNumberChar, List.mem_takeWhile_imp member, Bool.true_or]
  constructor
  · rintro rfl
    cases read
  · intro c member
    rw [← List.takeWhile_append_dropWhile (p := isDigit) (l := cs), List.mem_append] at member
    rcases member with whole | later
    · exact digits cs c whole
    · rw [Binary64.readDecimal?] at read
      cases rest : cs.dropWhile isDigit with
      | nil =>
        rw [rest] at later
        cases later
      | cons e after =>
        rw [rest] at read later
        by_cases point : e = '.'
        · subst point
          rw [← List.takeWhile_append_dropWhile (p := isDigit) (l := after)] at later
          simp only at read
          split at read
          · cases read
          · obtain ⟨exponent, found, _⟩ := Option.bind_eq_some_iff.1 read
            rcases List.mem_cons.1 later with rfl | later
            · decide
            · rcases List.mem_append.1 later with fraction | last
              · exact digits after c fraction
              · exact readExponent_chars found c last
        · split at read
          rename_i rest' parts
          split at parts
          · rename_i same
            exact absurd (List.cons.inj same).1 point
          · split at read
            · cases read
            · obtain ⟨exponent, found, _⟩ := Option.bind_eq_some_iff.1 read
              obtain ⟨_, rfl⟩ := Prod.mk.inj parts
              exact readExponent_chars found c later

theorem readFinite_chars {cs : List Char} {x : Binary64}
    (read : Binary64.read? .double cs = some x) (finite : x.isFinite = true) :
    cs ≠ [] ∧ ∀ c ∈ cs, isNumberChar c = true := by
  simp only [Binary64.read?] at read
  split at read
  · obtain rfl := Option.some.inj read
    cases finite
  · split at read
    · obtain rfl := Option.some.inj read
      cases finite
    · obtain ⟨d, decimal, _⟩ := Option.map_eq_some_iff.1 read
      obtain ⟨some, number⟩ := readDecimal_chars decimal
      exact ⟨splitSign_ne_nil some, splitSign_chars number⟩

theorem other_not_number (word : String) :
    (if word = "true" then Value.bool true
      else if word = "false" then Value.bool false else Value.str word).isNumber = false := by
  split_ifs <;> rfl

theorem word_of_number {t : List Char}
    (number : (literalOfWord (String.ofList t)).isNumber = true) :
    t ≠ [] ∧ ∀ c ∈ t, isWordChar c = true := by
  have chars : t ≠ [] ∧ ∀ c ∈ t, isNumberChar c = true := by
    rw [literalOfWord, String.toList_ofList] at number
    cases whole : readInt? 64 t with
    | some n => exact readInt_chars whole
    | none =>
      rw [whole] at number
      cases parts : Binary64.read? .double t with
      | none =>
        rw [parts] at number
        simp only [Option.filter_none, Option.map_none] at number
        rw [other_not_number] at number
        cases number
      | some x =>
        by_cases finite : x.isFinite = true
        · exact readFinite_chars parts finite
        · rw [parts] at number
          simp only [Option.filter_some, finite, Bool.false_eq_true, ↓reduceIte, Option.map_none,
            Option.filter_none] at number
          rw [other_not_number] at number
          cases number
  exact ⟨chars.1, fun c member => isWordChar_of_number (chars.2 c member)⟩

end TitleTemplate
