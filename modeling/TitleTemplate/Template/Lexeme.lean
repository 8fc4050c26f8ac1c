import TitleTemplate.Text.CharSet
import TitleTemplate.Text.Escape
import TitleTemplate.Text.Position

/-! The lexemes of an expression: words, quoted texts, punctuation and comparison operators, with
white space between them. A word ends at white space, punctuation, an operator or a quote; a
backslash takes away the special meaning of the character after it. -/
namespace TitleTemplate

inductive Comparison where
  | eq
  | ne
  | gt
  | gte
  | lt
  | lte
  | contains
  deriving DecidableEq

def Comparison.symbol : Comparison → String
  | .eq => "="
  | .ne => "!="
  | .gt => ">"
  | .gte => ">="
  | .lt => "<"
  | .lte => "<="
  | .contains => "~"

inductive Lexeme where
  | word (text : String)
  /-- A quoted text, or a word with escapes; the flag says whether there were escapes. -/
  | text (text : String) (escaped : Bool)
  | pipe
  | parenOpen
  | parenClose
  | comma
  | compare (op : Comparison)
  deriving DecidableEq

inductive LexicalFault where
  /-- An exclamation mark that is not part of an operator. -/
  | loneExclamation
  /-- A word that ends in a backslash. -/
  | danglingBackslash
  | unclosedText
  | escape (fault : EscapeFault)
  deriving DecidableEq

def endsWordAt (c : Char) : Bool :=
  isBlank c || c ∈ ['|', '(', ')', ',', '=', '!', '<', '>', '~', '\'', '"']

def splitWord : List Char → List Char × List Char
  | [] => ([], [])
  | '\\' :: c :: cs => let word := splitWord cs; ('\\' :: c :: word.1, word.2)
  | c :: cs =>
    if endsWordAt c then ([], c :: cs)
    else let word := splitWord cs; (c :: word.1, word.2)

/-- What a word takes after its first character, which belongs to it whatever it is. -/
def splitWordAfter (c : Char) (cs : List Char) : List Char × List Char :=
  if c = '\\' then
    match cs with
    | [] => ([], [])
    | d :: cs => let word := splitWord cs; (d :: word.1, word.2)
  else splitWord cs

/-- Splits at the first quote that is not escaped, and drops it. -/
def splitQuoted (quote : Char) : List Char → Option (List Char × List Char)
  | [] => none
  | '\\' :: c :: cs => (splitQuoted quote cs).map fun (t, rest) => ('\\' :: c :: t, rest)
  | c :: cs =>
    if c = quote then some ([], cs)
    else (splitQuoted quote cs).map fun (t, rest) => (c :: t, rest)

/-- Whether a text ends in a backslash that escapes nothing. -/
def dangles : List Char → Bool
  | [] => false
  | ['\\'] => true
  | '\\' :: _ :: cs => dangles cs
  | _ :: cs => dangles cs

structure LexemeScan where
  result : Except LexicalFault Lexeme
  taken : List Char
  rest : List Char

/-- A text with its escapes resolved, or the text itself when it has none. -/
def spelled (unescaped : String → Lexeme) (cs : List Char) : Except LexicalFault Lexeme :=
  if '\\' ∈ cs then
    match unescape cs with
    | .ok text => .ok (.text (String.ofList text) true)
    | .error fault => .error (.escape fault)
  else .ok (unescaped (String.ofList cs))

def scanWord (c : Char) (cs : List Char) : LexemeScan :=
  let tail := splitWordAfter c cs
  let word := c :: tail.1
  ⟨if dangles word then .error .danglingBackslash else spelled .word word, word, tail.2⟩

/-- The text after an opening quote. A text that is not closed takes all there is. -/
def scanQuoted (quote : Char) (cs : List Char) : LexemeScan :=
  match splitQuoted quote cs with
  | some (inner, rest) => ⟨spelled (.text · false) inner, quote :: (inner ++ [quote]), rest⟩
  | none => ⟨.error .unclosedText, quote :: cs, []⟩

def scanLexeme (c : Char) (cs : List Char) : LexemeScan :=
  match c, cs with
  | '!', '=' :: rest => ⟨.ok (.compare .ne), ['!', '='], rest⟩
  | '>', '=' :: rest => ⟨.ok (.compare .gte), ['>', '='], rest⟩
  | '<', '=' :: rest => ⟨.ok (.compare .lte), ['<', '='], rest⟩
  | '=', '=' :: rest => ⟨.ok (.compare .eq), ['=', '='], rest⟩
  | '=', rest => ⟨.ok (.compare .eq), ['='], rest⟩
  | '>', rest => ⟨.ok (.compare .gt), ['>'], rest⟩
  | '<', rest => ⟨.ok (.compare .lt), ['<'], rest⟩
  | '~', rest => ⟨.ok (.compare .contains), ['~'], rest⟩
  | '|', rest => ⟨.ok .pipe, ['|'], rest⟩
  | '(', rest => ⟨.ok .parenOpen, ['('], rest⟩
  | ')', rest => ⟨.ok .parenClose, [')'], rest⟩
  | ',', rest => ⟨.ok .comma, [','], rest⟩
  | '\'', rest => scanQuoted '\'' rest
  | '"', rest => scanQuoted '"' rest
  | '!', rest => ⟨.error .loneExclamation, ['!'], rest⟩
  | c, rest => scanWord c rest

theorem splitWord_append (cs : List Char) : (splitWord cs).1 ++ (splitWord cs).2 = cs := by
  fun_induction splitWord cs with
  | case1 => rfl
  | case2 c cs word ih => simp [word, ih]
  | case3 => rfl
  | case4 c cs _ _ word ih => simp [word, ih]

theorem splitWordAfter_append (c : Char) (cs : List Char) :
    (splitWordAfter c cs).1 ++ (splitWordAfter c cs).2 = cs := by
  unfold splitWordAfter
  split
  · cases cs <;> simp [splitWord_append]
  · exact splitWord_append cs

theorem splitQuoted_append {quote : Char} {cs inner rest : List Char}
    (h : splitQuoted quote cs = some (inner, rest)) : inner ++ quote :: rest = cs := by
  fun_induction splitQuoted quote cs generalizing inner rest with
  | case1 => simp at h
  | case2 c cs ih =>
    obtain ⟨⟨a, b⟩, hab, heq⟩ := Option.map_eq_some_iff.1 h
    obtain ⟨rfl, rfl⟩ := Prod.mk.inj heq
    simp [ih hab]
  | case3 cs => simp_all
  | case4 c cs _ _ ih =>
    obtain ⟨⟨a, b⟩, hab, heq⟩ := Option.map_eq_some_iff.1 h
    obtain ⟨rfl, rfl⟩ := Prod.mk.inj heq
    simp [ih hab]

theorem scanWord_append (c : Char) (cs : List Char) :
    (scanWord c cs).taken ++ (scanWord c cs).rest = c :: cs := by
  simp [scanWord, splitWordAfter_append]

theorem scanQuoted_append (quote : Char) (cs : List Char) :
    (scanQuoted quote cs).taken ++ (scanQuoted quote cs).rest = quote :: cs := by
  unfold scanQuoted
  split
  · next h => simp [splitQuoted_append h]
  · simp

theorem scanQuoted_taken_ne_nil (quote : Char) (cs : List Char) :
    (scanQuoted quote cs).taken ≠ [] := by
  unfold scanQuoted
  split <;> simp

theorem scanLexeme_append (c : Char) (cs : List Char) :
    (scanLexeme c cs).taken ++ (scanLexeme c cs).rest = c :: cs := by
  unfold scanLexeme
  split <;> first | rfl | exact scanWord_append _ _ | exact scanQuoted_append _ _

theorem scanLexeme_taken_ne_nil (c : Char) (cs : List Char) : (scanLexeme c cs).taken ≠ [] := by
  unfold scanLexeme
  split <;> first | exact scanQuoted_taken_ne_nil _ _ | simp [scanWord]

theorem scanLexeme_length (c : Char) (cs : List Char) :
    (scanLexeme c cs).rest.length < (c :: cs).length := by
  have h := congrArg List.length (scanLexeme_append c cs)
  have := List.length_pos_iff.mpr (scanLexeme_taken_ne_nil c cs)
  simp only [List.length_append] at h
  omega

/-- The lexemes of an expression up to the first fault, and where reading ended. -/
structure Lexed where
  lexemes : List (Lexeme × Span)
  fault : Option (LexicalFault × Span)
  stop : Position

/-- Reads the lexemes of a text that starts at `p`. -/
def Lexed.scan (p : Position) (cs : List Char) : Lexed :=
  let start := p.after (cs.takeWhile isBlank)
  match _skipped : cs.dropWhile isBlank with
  | [] => ⟨[], none, start⟩
  | c :: tail =>
    let s := scanLexeme c tail
    let stop := start.after s.taken
    match s.result with
    | .error fault => ⟨[], some (fault, ⟨start, stop⟩), stop⟩
    | .ok lexeme =>
      let after := Lexed.scan stop s.rest
      { after with lexemes := (lexeme, ⟨start, stop⟩) :: after.lexemes }
termination_by cs.length
decreasing_by
  have h1 := scanLexeme_length c tail
  have h2 := (List.dropWhile_suffix (l := cs) isBlank).length_le
  rw [_skipped] at h2
  omega

/-- The lexemes of the expression whose span begins at `p`, with its opening brace. -/
def Lexed.ofExpression (p : Position) (inner : List Char) : Lexed :=
  Lexed.scan (p.next '\x7b') inner

end TitleTemplate
