import TitleTemplate.Template.Expression
import TitleTemplate.Text.Position

/-! The older dialect writes a conditional as a path with a check and two quoted branches in
brackets, and a modifier after two colons. This module reads all of a construct that stands before
its branches, and writes it as an expression. -/
namespace TitleTemplate.Legacy

/-- What is asked of the value before one of the branches is taken. -/
inductive Check where
  | truthy
  | falsy
  | compare (op : Comparison) (literal : List Char)

inductive Argument where
  | quoted (text : List Char)
  | bare (text : List Char)

structure Step where
  name : List Char
  /-- What stands in the parentheses, if there are any. -/
  arguments : Option (List Argument)

structure Head where
  path : List Char
  steps : List Step
  check : Option Check

def isQuote (c : Char) : Bool := c = '"' || c = '\''

/-- The rest of a quoted text after its opening quote. A backslash stands for the character after
it. -/
def quotedText (quote : Char) : List Char → Option (List Char × List Char)
  | [] => none
  | '\\' :: c :: cs => (quotedText quote cs).map fun (text, rest) => (c :: text, rest)
  | ['\\'] => none
  | c :: cs =>
    if c = quote then some ([], cs)
    else (quotedText quote cs).map fun (text, rest) => (c :: text, rest)

theorem quotedText_length {quote : Char} {cs text rest : List Char}
    (h : quotedText quote cs = some (text, rest)) : rest.length < cs.length := by
  fun_induction quotedText quote cs generalizing text rest with
  | case1 | case3 => simp at h
  | case2 c cs ih | case5 c cs _ _ _ ih =>
    obtain ⟨⟨a, b⟩, hab, heq⟩ := Option.map_eq_some_iff.1 h
    obtain ⟨rfl, rfl⟩ := Prod.mk.inj heq
    have := ih hab
    simp only [List.length_cons]
    omega
  | case4 => simp_all

/-- A bare text up to one of some characters, without the white space around it. It must not be
empty, and no brace may open where it ends. -/
def bareText (ends : Char → Bool) (cs : List Char) : Option (List Char × List Char) :=
  let text := trimBlanks (cs.takeWhile (!ends ·))
  let rest := cs.dropWhile (!ends ·)
  if text = [] ∨ rest.head? = some '\x7b' then none else some (text, rest)

theorem bareText_length {ends : Char → Bool} {cs text rest : List Char}
    (h : bareText ends cs = some (text, rest)) : rest.length ≤ cs.length := by
  unfold bareText at h
  dsimp only at h
  split at h
  · simp at h
  · obtain ⟨_, rfl⟩ := Prod.mk.inj (Option.some.inj h)
    exact (List.dropWhile_suffix _).length_le

def comparedText (cs : List Char) : Option (List Char × List Char) :=
  match cs with
  | [] => none
  | c :: after =>
    if isQuote c then quotedText c after
    else bareText (· ∈ ['[', '\x7d', '\x7b']) cs

def readArgument (cs : List Char) : Option (Argument × List Char) :=
  match cs with
  | [] => none
  | c :: after =>
    if isQuote c then (quotedText c after).map fun (text, rest) => (.quoted text, rest)
    else
      (bareText (· ∈ [',', ')', '\x7b']) cs).map fun (text, rest) => (.bare text, rest)

theorem readArgument_length {cs rest : List Char} {a : Argument}
    (h : readArgument cs = some (a, rest)) : rest.length ≤ cs.length := by
  unfold readArgument at h
  split at h
  · simp at h
  · split at h
    · obtain ⟨⟨text, after⟩, hq, heq⟩ := Option.map_eq_some_iff.1 h
      obtain ⟨rfl, rfl⟩ := Prod.mk.inj heq
      have := quotedText_length hq
      simp only [List.length_cons]
      omega
    · obtain ⟨⟨text, after⟩, hb, heq⟩ := Option.map_eq_some_iff.1 h
      obtain ⟨rfl, rfl⟩ := Prod.mk.inj heq
      exact bareText_length hb

def readArgumentsFrom (cs : List Char) : Option (List Argument × List Char) :=
  match _read : readArgument (skipBlanks cs) with
  | none => none
  | some (a, rest) =>
    match _next : skipBlanks rest with
    | ',' :: more => (readArgumentsFrom more).map fun (as, rest) => (a :: as, rest)
    | ')' :: rest => some ([a], rest)
    | _ => none
termination_by cs.length
decreasing_by
  have h1 := readArgument_length _read
  have h2 : (skipBlanks rest).length ≤ rest.length := (List.dropWhile_suffix _).length_le
  have h3 : (skipBlanks cs).length ≤ cs.length := (List.dropWhile_suffix _).length_le
  rw [_next] at h2
  simp only [List.length_cons] at h2
  omega

def readArguments (cs : List Char) : Option (List Argument × List Char) :=
  match skipBlanks cs with
  | ')' :: rest => some ([], rest)
  | _ => readArgumentsFrom cs

theorem readArgumentsFrom_length {cs rest : List Char} {as : List Argument}
    (h : readArgumentsFrom cs = some (as, rest)) : rest.length ≤ cs.length := by
  fun_induction readArgumentsFrom cs generalizing as rest with
  | case1 => simp at h
  | case2 cs a after ha more hmore ih =>
    obtain ⟨⟨others, tail⟩, hothers, heq⟩ := Option.map_eq_some_iff.1 h
    obtain ⟨rfl, rfl⟩ := Prod.mk.inj heq
    have h1 := readArgument_length ha
    have h2 : (skipBlanks after).length ≤ after.length := (List.dropWhile_suffix _).length_le
    have h3 : (skipBlanks cs).length ≤ cs.length := (List.dropWhile_suffix _).length_le
    have := ih hothers
    rw [hmore] at h2
    simp only [List.length_cons] at h2
    omega
  | case3 cs a after ha tail htail =>
    obtain ⟨_, rfl⟩ := Prod.mk.inj (Option.some.inj h)
    have h1 := readArgument_length ha
    have h2 : (skipBlanks after).length ≤ after.length := (List.dropWhile_suffix _).length_le
    have h3 : (skipBlanks cs).length ≤ cs.length := (List.dropWhile_suffix _).length_le
    rw [htail] at h2
    simp only [List.length_cons] at h2
    omega
  | case4 => simp at h

theorem readArguments_length {cs rest : List Char} {as : List Argument}
    (h : readArguments cs = some (as, rest)) : rest.length ≤ cs.length := by
  unfold readArguments at h
  split at h
  · next heq =>
    obtain ⟨_, rfl⟩ := Prod.mk.inj (Option.some.inj h)
    have h2 : (skipBlanks cs).length ≤ cs.length := (List.dropWhile_suffix _).length_le
    rw [heq] at h2
    simp only [List.length_cons] at h2
    omega
  · exact readArgumentsFrom_length h

def operator? : List Char → Option (Comparison × List Char)
  | '!' :: '=' :: rest => some (.ne, rest)
  | '>' :: '=' :: rest => some (.gte, rest)
  | '<' :: '=' :: rest => some (.lte, rest)
  | '=' :: '=' :: rest => some (.eq, rest)
  | '=' :: rest => some (.eq, rest)
  | '>' :: rest => some (.gt, rest)
  | '<' :: rest => some (.lt, rest)
  | '~' :: rest => some (.contains, rest)
  | _ => none

def isStepChar (c : Char) : Bool := c.isAlphanum || c = '_'

def check? (name : List Char) : Option Check :=
  if name = "istrue".toList ∨ name = "exists".toList then some .truthy
  else if name = "isfalse".toList then some .falsy
  else none

/-- A check comes last: no colons may follow it. -/
def closing (check : Check) (rest : List Char) : Option (List Step × Option Check × List Char) :=
  match rest with
  | ':' :: ':' :: _ => none
  | _ => some ([], some check, rest)

theorem closing_parts {check : Check} {cs rest : List Char} {ss : List Step} {c : Option Check}
    (closed : closing check cs = some (ss, c, rest)) : ss = [] ∧ c = some check ∧ rest = cs := by
  unfold closing at closed
  split at closed
  · cases closed
  · obtain ⟨rfl, same⟩ := Prod.mk.inj (Option.some.inj closed)
    obtain ⟨rfl, rfl⟩ := Prod.mk.inj same
    exact ⟨rfl, rfl, rfl⟩

def readStep (cs : List Char) : Option (Step × List Char) :=
  let name := cs.takeWhile isStepChar
  match cs.dropWhile isStepChar with
  | '(' :: rest => (readArguments rest).map fun (as, rest) => (⟨name, some as⟩, rest)
  | rest => some (⟨name, none⟩, rest)

theorem readStep_length {cs rest : List Char} {s : Step} (h : readStep cs = some (s, rest)) :
    rest.length ≤ cs.length := by
  have hle : (cs.dropWhile isStepChar).length ≤ cs.length := (List.dropWhile_suffix _).length_le
  unfold readStep at h
  dsimp only at h
  split at h
  · next heq =>
    obtain ⟨⟨as, after⟩, has, hpair⟩ := Option.map_eq_some_iff.1 h
    obtain ⟨_, rfl⟩ := Prod.mk.inj hpair
    have := readArguments_length has
    rw [heq] at hle
    simp only [List.length_cons] at hle ⊢
    omega
  · obtain ⟨_, rfl⟩ := Prod.mk.inj (Option.some.inj h)
    exact hle

def readSteps (cs : List Char) : Option (List Step × Option Check × List Char) :=
  match cs with
  | ':' :: ':' :: cs =>
    match operator? cs with
    | some (op, rest) => do
      let (literal, rest) ← comparedText rest
      closing (.compare op literal) rest
    | none =>
      let name := cs.takeWhile isStepChar
      if name = [] then none
      else
        match check? name with
        | some check => closing check (cs.dropWhile isStepChar)
        | none =>
          match _read : readStep cs with
          | none => none
          | some (s, rest) => (readSteps rest).map fun (ss, check, rest) => (s :: ss, check, rest)
  | _ => some ([], none, cs)
termination_by cs.length
decreasing_by
  have := readStep_length _read
  simp only [List.length_cons]
  omega

def Head.read (cs : List Char) : Option (Head × List Char) :=
  let isPart (c : Char) : Bool := c = '.' || isSegmentChar c
  let path := cs.takeWhile isPart
  if (splitAtChar '.' path).all isSegment then
    (readSteps (cs.dropWhile isPart)).map fun (ss, check, rest) => (⟨path, ss, check⟩, rest)
  else none

/-- A text as a literal of an expression. What reads back as the same number stays bare. -/
def literalText (text : List Char) : List Char :=
  if (literalOfWord (String.ofList text)).isNumber then text else quote text

def Argument.write : Argument → List Char
  | .quoted text => quote text
  | .bare text => literalText text

def Step.write (s : Step) : List Char :=
  let arguments := match s.arguments with
    | none => []
    | some as => '(' :: ((", ".toList.intercalate (as.map Argument.write)) ++ [')'])
  '|' :: (s.name ++ arguments)

def Head.operand (h : Head) : List Char := h.path ++ h.steps.flatMap Step.write

def Head.condition (h : Head) : List Char :=
  match h.check with
  | none | some .truthy => h.operand
  | some .falsy => "not ".toList ++ h.operand
  | some (.compare op literal) =>
    h.operand ++ ' ' :: (op.symbol.toList ++ ' ' :: literalText literal)

end TitleTemplate.Legacy
