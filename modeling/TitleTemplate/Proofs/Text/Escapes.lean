import TitleTemplate.Proofs.Template.Lexing
import TitleTemplate.Template.Fault

/-!
Which texts can be unescaped, and what comes out. The grammar has characters that stand for
themselves, escapes of one character, and units of sixteen bits in hexadecimal, of which two make up
a character beyond the first plane. A unit is four hexadecimal digits; but a plus sign is taken in
the place of the first of them, which stands for zero there.
-/
namespace TitleTemplate

def SpellsUnit (a b c d : Char) (unit : Nat) : Prop :=
  ∃ p q r s, hexDigit? a = some p ∧ hexDigit? b = some q ∧ hexDigit? c = some r ∧
    hexDigit? d = some s ∧ unit = ((p * 16 + q) * 16 + r) * 16 + s

/-- Four characters that are taken for a unit. -/
def TakenForUnit (a b c d : Char) (unit : Nat) : Prop :=
  SpellsUnit a b c d unit ∨ a = '+' ∧ SpellsUnit '0' b c d unit

def escapedSigns : List Char := ['"', '\\', '/', '\'', '\x7b', '\x7d', '|', ',', '(', ')', ' ']

def escapedLetters : List (Char × Char) := [('n', '\n'), ('r', '\r'), ('t', '\t')]

/-- A text with escapes and what it stands for, where the first argument says how units of sixteen
bits are spelled. -/
inductive IsEscaped (Spells : Char → Char → Char → Char → Nat → Prop) :
    List Char → List Char → Prop where
  | nil : IsEscaped Spells [] []
  | plain {c : Char} {cs text : List Char} (other : c ≠ '\\') (rest : IsEscaped Spells cs text) :
      IsEscaped Spells (c :: cs) (c :: text)
  | punctuation {c : Char} {cs text : List Char}
      (listed : c ∈ escapedSigns)
      (rest : IsEscaped Spells cs text) : IsEscaped Spells ('\\' :: c :: cs) (c :: text)
  | control {c d : Char} {cs text : List Char}
      (listed : (c, d) ∈ escapedLetters)
      (rest : IsEscaped Spells cs text) : IsEscaped Spells ('\\' :: c :: cs) (d :: text)
  | unit {a b c d : Char} {unit : Nat} {cs text : List Char} (spelled : Spells a b c d unit)
      (single : ¬ (0xD800 ≤ unit ∧ unit ≤ 0xDFFF)) (rest : IsEscaped Spells cs text) :
      IsEscaped Spells ('\\' :: 'u' :: a :: b :: c :: d :: cs) (Char.ofNat unit :: text)
  | pair {a b c d e f g h : Char} {high low : Nat} {cs text : List Char}
      (first : Spells a b c d high) (isHigh : 0xD800 ≤ high ∧ high ≤ 0xDBFF)
      (second : Spells e f g h low) (isLow : 0xDC00 ≤ low ∧ low ≤ 0xDFFF)
      (rest : IsEscaped Spells cs text) :
      IsEscaped Spells
        ('\\' :: 'u' :: a :: b :: c :: d :: '\\' :: 'u' :: e :: f :: g :: h :: cs)
        (Char.ofNat (0x10000 + (high - 0xD800) * 0x400 + (low - 0xDC00)) :: text)

theorem ne_u_of_sign {c : Char} (listed : c ∈ escapedSigns) : c ≠ 'u' := by
  rintro rfl
  exact absurd listed (by decide)

theorem ne_u_of_letter {c d : Char} (listed : (c, d) ∈ escapedLetters) : c ≠ 'u' := by
  rintro rfl
  simp [escapedLetters] at listed

theorem escaped_iff {c d : Char} : escaped? c = some d ↔
    (c ∈ escapedSigns ∧ c = d) ∨ (c, d) ∈ escapedLetters := by
  have letter : (c, d) ∈ escapedLetters ↔
      (c = 'n' ∧ d = '\n') ∨ (c = 'r' ∧ d = '\r') ∨ (c = 't' ∧ d = '\t') := by
    simp [escapedLetters]
  rw [escaped?, ← escapedSigns, letter]
  by_cases sign : c ∈ escapedSigns
  · have other : c ≠ 'n' ∧ c ≠ 'r' ∧ c ≠ 't' := by
      refine ⟨?_, ?_, ?_⟩ <;> rintro rfl <;> exact absurd sign (by decide)
    simp [sign, other]
  · simp only [sign, if_false, false_and, false_or]
    split_ifs with newline carriage tab
    · simp [newline, eq_comm]
    · simp [carriage, eq_comm]
    · simp [tab, eq_comm]
    · simp [newline, carriage, tab]

theorem hexFrom_cons {n m : Nat} {c : Char} {cs : List Char} :
    hexFrom? n (c :: cs) = some m ↔
      ∃ digit, hexDigit? c = some digit ∧ hexFrom? (16 * n + digit) cs = some m :=
  Option.bind_eq_some_iff

theorem hexFrom_nil {n m : Nat} : hexFrom? n [] = some m ↔ n = m := Option.some_inj

theorem spellsUnit_iff {a b c d : Char} {unit : Nat} :
    SpellsUnit a b c d unit ↔ hexFrom? 0 [a, b, c, d] = some unit := by
  rw [SpellsUnit, hexFrom_cons]
  simp only [hexFrom_cons, hexFrom_nil]
  constructor
  · rintro ⟨p, q, r, s, first, second, third, fourth, rfl⟩
    exact ⟨p, first, q, second, r, third, s, fourth, by omega⟩
  · rintro ⟨p, first, q, second, r, third, s, fourth, rfl⟩
    exact ⟨p, q, r, s, first, second, third, fourth, by omega⟩

theorem hexUnit_iff {a b c d : Char} {unit : Nat} :
    hexUnit? a b c d = some unit ↔ TakenForUnit a b c d unit := by
  have zero : hexDigit? '0' = some 0 := by decide
  have plus : hexDigit? '+' = none := by decide
  rw [hexUnit?, TakenForUnit, spellsUnit_iff, spellsUnit_iff]
  split
  · rename_i same
    subst same
    simp [hexFrom_cons, zero, plus]
  · rename_i other
    simp [other]

theorem surrogatePair_iff {high low : Nat} {c : Char} : surrogatePair? high low = some c ↔
    (0xD800 ≤ high ∧ high ≤ 0xDBFF) ∧ (0xDC00 ≤ low ∧ low ≤ 0xDFFF) ∧
      Char.ofNat (0x10000 + (high - 0xD800) * 0x400 + (low - 0xDC00)) = c := by
  rw [surrogatePair?]
  split
  · rename_i range
    rw [Option.some_inj]
    exact ⟨fun same => ⟨by omega, by omega, same⟩, fun pair => pair.2.2⟩
  · rename_i range
    exact iff_of_false nofun fun pair => range (by omega)

/-- What is read while a surrogate may be waiting for its other half. -/
def ReadsAfter : Option Nat → List Char → List Char → Prop
  | none, cs, text => IsEscaped TakenForUnit cs text
  | some high, cs, text => ∃ a b c d low rest char later,
      cs = '\\' :: 'u' :: a :: b :: c :: d :: rest ∧ text = char :: later ∧
        hexUnit? a b c d = some low ∧ surrogatePair? high low = some char ∧
          IsEscaped TakenForUnit rest later

theorem readsAfter_of_unescape {pending : Option Nat} {cs text : List Char}
    (read : unescapeFrom pending cs = .ok text) : ReadsAfter pending cs text := by
  fun_induction unescapeFrom pending cs generalizing text with
  | case1 pending absent =>
    obtain rfl := Option.isNone_iff_eq_none.1 absent
    cases read
    exact .nil
  | case4 a b c d rest unit spelled single ih =>
    obtain ⟨later, readRest, same⟩ := bind_eq_ok.1 read
    cases same
    exact .unit (hexUnit_iff.1 spelled) (by simpa [isSurrogate] using single) (ih readRest)
  | case5 a b c d rest high spelled surrogate ih =>
    obtain ⟨e, f, g, h, low, rest, char, later, rfl, rfl, second, paired, done⟩ := ih read
    obtain ⟨isHigh, isLow, rfl⟩ := surrogatePair_iff.1 paired
    exact .pair (hexUnit_iff.1 spelled) isHigh (hexUnit_iff.1 second) isLow done
  | case7 a b c d rest low spelled high surrogate char paired ih =>
    obtain ⟨later, readRest, same⟩ := bind_eq_ok.1 read
    cases same
    exact ⟨a, b, c, d, low, rest, char, later, rfl, rfl, spelled, paired, ih readRest⟩
  | case11 c rest notUnit notUnit' char known ih =>
    obtain ⟨later, readRest, same⟩ := bind_eq_ok.1 read
    cases same
    rcases escaped_iff.1 known with ⟨sign, rfl⟩ | letter
    · exact .punctuation sign (ih readRest)
    · exact .control letter (ih readRest)
  | case13 c rest notUnit notTail notEnd notEscape ih =>
    obtain ⟨later, readRest, same⟩ := bind_eq_ok.1 read
    cases same
    refine .plain (fun escape => ?_) (ih readRest)
    cases rest with
    | nil => exact notEnd escape rfl
    | cons d rest => exact notEscape d rest escape rfl
  | case2 | case3 | case6 | case8 | case9 | case10 | case12 | case14 => cases read

theorem unescape_unit {a b c d : Char} {unit : Nat} (spelled : hexUnit? a b c d = some unit)
    (single : isSurrogate unit = false) (rest : List Char) :
    unescapeFrom none ('\\' :: 'u' :: a :: b :: c :: d :: rest) =
      (unescapeFrom none rest).map (Char.ofNat unit :: ·) := by
  rw [unescapeFrom, spelled]
  simp only [single]
  cases unescapeFrom none rest <;> rfl

theorem unescape_pair {a b c d e f g h : Char} {high low : Nat} {char : Char}
    (first : hexUnit? a b c d = some high) (second : hexUnit? e f g h = some low)
    (paired : surrogatePair? high low = some char) (rest : List Char) :
    unescapeFrom none
        ('\\' :: 'u' :: a :: b :: c :: d :: '\\' :: 'u' :: e :: f :: g :: h :: rest) =
      (unescapeFrom none rest).map (char :: ·) := by
  obtain ⟨isHigh, isLow, _⟩ := surrogatePair_iff.1 paired
  have surrogates : isSurrogate high = true ∧ isSurrogate low = true := by
    simp only [isSurrogate, Bool.and_eq_true, decide_eq_true_eq]
    omega
  rw [unescapeFrom, first]
  simp only [surrogates.1]
  rw [unescapeFrom, second]
  simp only [surrogates.2, paired]
  cases unescapeFrom none rest <;> rfl

theorem unescape_of_isEscaped {cs text : List Char} (escaped : IsEscaped TakenForUnit cs text) :
    unescape cs = .ok text := by
  rw [unescape]
  induction escaped with
  | nil => rfl
  | plain other rest ih =>
    rw [unescape_plain other, ih]
    rfl
  | punctuation listed rest ih =>
    rw [unescape_escape (ne_u_of_sign listed) (escaped_iff.2 (.inl ⟨listed, rfl⟩)), ih]
    rfl
  | control listed rest ih =>
    rw [unescape_escape (ne_u_of_letter listed) (escaped_iff.2 (.inr listed)), ih]
    rfl
  | unit spelled single rest ih =>
    rw [unescape_unit (hexUnit_iff.2 spelled) (by simpa [isSurrogate] using single), ih]
    rfl
  | pair first isHigh second isLow rest ih =>
    rw [unescape_pair (hexUnit_iff.2 first) (hexUnit_iff.2 second)
      (surrogatePair_iff.2 ⟨isHigh, isLow, rfl⟩), ih]
    rfl

def hasSignedUnit : List Char → Bool
  | [] => false
  | '\\' :: 'u' :: '+' :: _ => true
  | '\\' :: _ :: cs => hasSignedUnit cs
  | _ :: cs => hasSignedUnit cs

theorem hasSignedUnit_plain {c : Char} (other : c ≠ '\\') (cs : List Char) :
    hasSignedUnit (c :: cs) = hasSignedUnit cs := by
  rw [hasSignedUnit] <;> intros <;> exact other ‹_›

theorem hasSignedUnit_escape {c : Char} (notUnit : c ≠ 'u') (cs : List Char) :
    hasSignedUnit ('\\' :: c :: cs) = hasSignedUnit cs := by
  rw [hasSignedUnit]
  intros
  exact notUnit ‹_›

theorem ne_of_hexDigit {c : Char} {digit : Nat} (hex : hexDigit? c = some digit) :
    c ≠ '\\' ∧ c ≠ '+' := by
  have neither : hexDigit? '\\' = none ∧ hexDigit? '+' = none := by decide
  constructor <;> rintro rfl <;> simp [neither] at hex

theorem hasSignedUnit_unit {a b c d : Char} {unit : Nat} (taken : TakenForUnit a b c d unit)
    (cs : List Char) :
    hasSignedUnit ('\\' :: 'u' :: a :: b :: c :: d :: cs) = (a == '+' || hasSignedUnit cs) := by
  rcases taken with ⟨_, _, _, _, first, second, third, fourth, _⟩ | ⟨rfl, _⟩
  · have unsigned := (ne_of_hexDigit first).2
    rw [hasSignedUnit, hasSignedUnit_plain (ne_of_hexDigit first).1,
      hasSignedUnit_plain (ne_of_hexDigit second).1, hasSignedUnit_plain (ne_of_hexDigit third).1,
      hasSignedUnit_plain (ne_of_hexDigit fourth).1, beq_false_of_ne unsigned, Bool.false_or]
    intro _ _ same
    exact unsigned (List.cons.inj same).1
  · rfl

theorem hasSignedUnit_spelled {a b c d : Char} {unit : Nat} (spelled : SpellsUnit a b c d unit)
    (cs : List Char) :
    hasSignedUnit ('\\' :: 'u' :: a :: b :: c :: d :: cs) = hasSignedUnit cs := by
  have unsigned : a ≠ '+' := by
    obtain ⟨_, _, _, _, first, _⟩ := spelled
    exact (ne_of_hexDigit first).2
  rw [hasSignedUnit_unit (.inl spelled), beq_false_of_ne unsigned, Bool.false_or]

theorem spelled_of_unsigned {a b c d : Char} {unit : Nat} {cs : List Char}
    (taken : TakenForUnit a b c d unit)
    (unsigned : hasSignedUnit ('\\' :: 'u' :: a :: b :: c :: d :: cs) = false) :
    SpellsUnit a b c d unit ∧ hasSignedUnit cs = false := by
  rw [hasSignedUnit_unit taken, Bool.or_eq_false_iff] at unsigned
  rcases taken with spelled | ⟨plus, _⟩
  · exact ⟨spelled, unsigned.2⟩
  · exact absurd plus (ne_of_beq_false unsigned.1)

/-- Texts in which every unit has four digits are those that are read and have no plus sign in the
place of a digit. -/
theorem isEscaped_spelled_iff {cs text : List Char} : IsEscaped SpellsUnit cs text ↔
    IsEscaped TakenForUnit cs text ∧ hasSignedUnit cs = false := by
  constructor
  · intro escaped
    induction escaped with
    | nil => exact ⟨.nil, rfl⟩
    | plain other rest ih => exact ⟨.plain other ih.1, (hasSignedUnit_plain other _).trans ih.2⟩
    | punctuation listed rest ih =>
      exact ⟨.punctuation listed ih.1, (hasSignedUnit_escape (ne_u_of_sign listed) _).trans ih.2⟩
    | control listed rest ih =>
      exact ⟨.control listed ih.1, (hasSignedUnit_escape (ne_u_of_letter listed) _).trans ih.2⟩
    | unit spelled single rest ih =>
      exact ⟨.unit (.inl spelled) single ih.1, (hasSignedUnit_spelled spelled _).trans ih.2⟩
    | pair first isHigh second isLow rest ih =>
      exact ⟨.pair (.inl first) isHigh (.inl second) isLow ih.1,
        (hasSignedUnit_spelled first _).trans ((hasSignedUnit_spelled second _).trans ih.2)⟩
  · rintro ⟨escaped, unsigned⟩
    induction escaped with
    | nil => exact .nil
    | plain other rest ih =>
      rw [hasSignedUnit_plain other] at unsigned
      exact .plain other (ih unsigned)
    | punctuation listed rest ih =>
      rw [hasSignedUnit_escape (ne_u_of_sign listed)] at unsigned
      exact .punctuation listed (ih unsigned)
    | control listed rest ih =>
      rw [hasSignedUnit_escape (ne_u_of_letter listed)] at unsigned
      exact .control listed (ih unsigned)
    | unit taken single rest ih =>
      obtain ⟨spelled, unsigned⟩ := spelled_of_unsigned taken unsigned
      exact .unit spelled single (ih unsigned)
    | pair first isHigh second isLow rest ih =>
      obtain ⟨first, unsigned⟩ := spelled_of_unsigned first unsigned
      obtain ⟨second, unsigned⟩ := spelled_of_unsigned second unsigned
      exact .pair first isHigh second isLow (ih unsigned)

/-! Writing a text in units. -/

def hexChar (capital : Bool) (digit : Nat) : Char :=
  if capital then (Nat.digitChar digit).toUpper else Nat.digitChar digit

def writeUnit (capital : Bool) (unit : Nat) : List Char :=
  ['\\', 'u', hexChar capital (unit / 4096 % 16), hexChar capital (unit / 256 % 16),
    hexChar capital (unit / 16 % 16), hexChar capital (unit % 16)]

def utf16Units (c : Char) : List Nat :=
  if c.toNat < 0x10000 then [c.toNat]
  else [0xD800 + (c.toNat - 0x10000) / 0x400, 0xDC00 + (c.toNat - 0x10000) % 0x400]

theorem hexDigit_hexChar (capital : Bool) {digit : Nat} (small : digit < 16) :
    hexDigit? (hexChar capital digit) = some digit := by
  have all : ∀ capital : Bool, ∀ digit : Fin 16,
      hexDigit? (hexChar capital digit) = some digit.val := by decide
  exact all capital ⟨digit, small⟩

theorem spellsUnit_writeUnit (capital : Bool) {unit : Nat} (small : unit < 0x10000) :
    SpellsUnit (hexChar capital (unit / 4096 % 16)) (hexChar capital (unit / 256 % 16))
      (hexChar capital (unit / 16 % 16)) (hexChar capital (unit % 16)) unit :=
  ⟨_, _, _, _, hexDigit_hexChar capital (by omega), hexDigit_hexChar capital (by omega),
    hexDigit_hexChar capital (by omega), hexDigit_hexChar capital (by omega), by omega⟩

theorem isEscaped_units (capital : Bool) (text : List Char) :
    IsEscaped SpellsUnit
      (text.flatMap fun c => (utf16Units c).flatMap (writeUnit capital)) text := by
  induction text with
  | nil => exact .nil
  | cons c text ih =>
    rw [List.flatMap_cons, utf16Units]
    have scalar : c.toNat < 0xD800 ∨ 0xDFFF < c.toNat ∧ c.toNat < 0x110000 := c.valid
    split
    · rename_i small
      have read := IsEscaped.unit (spellsUnit_writeUnit capital small) (by omega) ih
      rw [Char.ofNat_toNat] at read
      exact read
    · rename_i large
      have high : 0xD800 + (c.toNat - 0x10000) / 0x400 < 0x10000 := by omega
      have low : 0xDC00 + (c.toNat - 0x10000) % 0x400 < 0x10000 := by omega
      have read := IsEscaped.pair (spellsUnit_writeUnit capital high) (by omega)
        (spellsUnit_writeUnit capital low) (by omega) ih
      have whole : 0x10000 + (0xD800 + (c.toNat - 0x10000) / 0x400 - 0xD800) * 0x400 +
          (0xDC00 + (c.toNat - 0x10000) % 0x400 - 0xDC00) = c.toNat := by omega
      rw [whole, Char.ofNat_toNat] at read
      exact read

/-- A text is unescaped just when the grammar has it, with what it stands for there; with units of
four digits alone, just when no unit begins with a plus sign as well. All else is a bad escape. A
text that is written in units is read back, whatever it holds. -/
theorem unescape_reads_iff (cs text : List Char) (capital : Bool) :
    (unescape cs = .ok text ↔ IsEscaped TakenForUnit cs text) ∧
    (unescape cs = .ok text ∧ hasSignedUnit cs = false ↔ IsEscaped SpellsUnit cs text) ∧
    ((¬ ∃ text, IsEscaped TakenForUnit cs text) ↔
      ∃ fault, unescape cs = .error fault ∧
        (Cause.lexical (.escape fault)).kind = .badEscape) ∧
    unescape (text.flatMap fun c => (utf16Units c).flatMap (writeUnit capital)) = .ok text := by
  have reads : ∀ cs text, unescape cs = .ok text ↔ IsEscaped TakenForUnit cs text :=
    fun cs text => ⟨readsAfter_of_unescape, unescape_of_isEscaped⟩
  refine ⟨reads cs text, ?_, ?_, ?_⟩
  · rw [reads, isEscaped_spelled_iff]
  · simp only [← reads]
    cases read : unescape cs with
    | ok text => simp
    | error fault => simp [Cause.kind]
  · exact (reads _ _).2 (isEscaped_spelled_iff.1 (isEscaped_units capital text)).1

theorem signed_unit_read :
    unescape "\\u+041".toList = .ok "A".toList ∧
      ¬ ∃ text, IsEscaped SpellsUnit "\\u+041".toList text := by
  refine ⟨by decide, ?_⟩
  rintro ⟨text, escaped⟩
  exact absurd (isEscaped_spelled_iff.1 escaped).2 (by decide)

end TitleTemplate
