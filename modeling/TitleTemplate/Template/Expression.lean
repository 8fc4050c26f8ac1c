import TitleTemplate.Template.Fault
import TitleTemplate.Template.Tree
import TitleTemplate.Text.Alphanumeric
import TitleTemplate.Text.Search

/-! Reading operands and conditions from lexemes. `or` binds weaker than `and`, and `and` weaker
than `not`; chains lean to the left. Keywords are plain words: `not` where a condition may begin,
`and` and `or` after a complete one. -/
namespace TitleTemplate

def isSegmentChar (c : Char) : Bool := isAlphanumeric c || c ∈ ['_', '-', '$', '@']

def isSegment (cs : List Char) : Bool := !cs.isEmpty && cs.all isSegmentChar

/-- The value of a bare word: a number if the number is written the same way, so that no text is
lost, else a boolean if it is one, else the word itself. -/
def literalOfWord (word : String) : Value :=
  let number := match readInt? 64 word.toList with
    | some n => some (Value.int n)
    | none => ((Binary64.read? .double word.toList).filter Binary64.isFinite).map .float
  match number.filter (·.display = word) with
  | some number => number
  | none => if word = "true" then .bool true else if word = "false" then .bool false else .str word

theorem bind_eq_ok {ε α β : Type} {x : Except ε α} {f : α → Except ε β} {b : β} :
    (x >>= f) = .ok b ↔ ∃ a, x = .ok a ∧ f a = .ok b := by
  cases x <;> simp [bind, Except.bind]

/-- What readers of one expression share: its span, the lexical fault that ends its lexemes, and
how deep conditions may nest. -/
structure Reading where
  whole : Span
  fault : Option Fault
  limit : Nat

/-- Something read, where it ends, and the lexemes after it. -/
structure Read (α : Type) where
  value : α
  stop : Position
  rest : List (Lexeme × Span)

namespace Reading

def atEnd (r : Reading) (expected : Expected) : Fault :=
  r.fault.getD ⟨.unexpected none expected, r.whole⟩

def unexpected (r : Reading) (found : Lexeme) (expected : Expected) : Fault :=
  ⟨.unexpected (some found) expected, r.whole⟩

def literal (r : Reading) (expected : Expected) : Lexeme → Except Fault Value
  | .word word => .ok (literalOfWord word)
  | .text text _ => .ok (.str text)
  | found => .error (r.unexpected found expected)

def path (r : Reading) : List (Lexeme × Span) → Except Fault (Read (List String))
  | [] => .error (r.atEnd .path)
  | (.word raw, span) :: rest =>
    let segments := splitAtChar '.' raw.toList
    if segments.all isSegment then .ok ⟨segments.map String.ofList, span.stop, rest⟩
    else .error ⟨.invalidPath raw, span⟩
  | (found, _) :: _ => .error (r.unexpected found .path)

/-- Arguments up to the closing parenthesis. The flag says whether none has been read yet. -/
def arguments (r : Reading) : Bool → List (Lexeme × Span) → Except Fault (Read (List Value))
  | first, [] => .error (r.atEnd (if first then .argument else .commaOrParen))
  | _, (.parenClose, span) :: rest => .ok ⟨[], span.stop, rest⟩
  | true, (found, _) :: rest => do
    let value ← r.literal .argument found
    let others ← r.arguments false rest
    return ⟨value :: others.value, others.stop, others.rest⟩
  | false, [(.comma, _)] => .error (r.atEnd .argument)
  | false, (.comma, _) :: (found, _) :: rest => do
    let value ← r.literal .argument found
    let others ← r.arguments false rest
    return ⟨value :: others.value, others.stop, others.rest⟩
  | false, (found, _) :: _ => .error (r.unexpected found .commaOrParen)

def modifier (r : Reading) : List (Lexeme × Span) → Except Fault (Read ModifierCall)
  | [] => .error (r.atEnd .modifierName)
  | (.word name, _) :: (.parenOpen, _) :: rest => do
    let args ← r.arguments true rest
    return ⟨⟨.ofString name, args.value⟩, args.stop, args.rest⟩
  | (.word name, span) :: rest => .ok ⟨⟨.ofString name, []⟩, span.stop, rest⟩
  | (found, _) :: _ => .error (r.unexpected found .modifierName)

theorem arguments_rest {r : Reading} {first : Bool} {ls : List (Lexeme × Span)}
    {read : Read (List Value)} (h : r.arguments first ls = .ok read) :
    read.rest.length < ls.length := by
  fun_induction arguments r first ls generalizing read with
  | case1 | case4 | case6 => simp at h
  | case2 _ span rest =>
    obtain rfl := Except.ok.inj h
    simp
  | case3 found _ rest _ ih | case5 _ found _ rest ih =>
    obtain ⟨_, _, h⟩ := bind_eq_ok.1 h
    obtain ⟨others, hothers, h⟩ := bind_eq_ok.1 h
    obtain rfl := Except.ok.inj h
    have := ih hothers
    simp only [List.length_cons]
    omega

theorem modifier_rest {r : Reading} {ls : List (Lexeme × Span)} {read : Read ModifierCall}
    (h : r.modifier ls = .ok read) : read.rest.length < ls.length := by
  unfold modifier at h
  split at h
  · simp at h
  · obtain ⟨args, hargs, h⟩ := bind_eq_ok.1 h
    obtain rfl := Except.ok.inj h
    have := arguments_rest hargs
    simp only [List.length_cons]
    omega
  · obtain rfl := Except.ok.inj h
    simp
  · simp at h

/-- Modifiers, each after a pipe. The second argument is where reading stands. -/
def modifiers (r : Reading) (stop : Position) (ls : List (Lexeme × Span)) :
    Except Fault (Read (List ModifierCall)) :=
  match ls with
  | (.pipe, _) :: rest =>
    match _read : r.modifier rest with
    | .error fault => .error fault
    | .ok call => do
      let others ← r.modifiers call.stop call.rest
      return ⟨call.value :: others.value, others.stop, others.rest⟩
  | _ => .ok ⟨[], stop, ls⟩
termination_by ls.length
decreasing_by
  have := modifier_rest _read
  simp only [List.length_cons]
  omega

theorem modifiers_rest {r : Reading} {stop : Position} {ls : List (Lexeme × Span)}
    {read : Read (List ModifierCall)} (h : r.modifiers stop ls = .ok read) :
    read.rest.length ≤ ls.length := by
  fun_induction modifiers r stop ls generalizing read with
  | case1 => simp at h
  | case2 _ _ rest call hcall ih =>
    obtain ⟨others, hothers, h⟩ := bind_eq_ok.1 h
    obtain rfl := Except.ok.inj h
    have := ih hothers
    have := modifier_rest hcall
    simp only [List.length_cons]
    omega
  | case3 =>
    obtain rfl := Except.ok.inj h
    exact Nat.le_refl _

def operand (r : Reading) (ls : List (Lexeme × Span)) : Except Fault (Read Operand) := do
  let path ← r.path ls
  let calls ← r.modifiers path.stop path.rest
  return ⟨⟨path.value, calls.value⟩, calls.stop, calls.rest⟩

theorem path_rest {r : Reading} {ls : List (Lexeme × Span)} {read : Read (List String)}
    (h : r.path ls = .ok read) : read.rest.length < ls.length := by
  unfold path at h
  split at h
  · simp at h
  · dsimp only at h
    split at h
    · obtain rfl := Except.ok.inj h
      simp
    · simp at h
  · simp at h

theorem operand_rest {r : Reading} {ls : List (Lexeme × Span)} {read : Read Operand}
    (h : r.operand ls = .ok read) : read.rest.length < ls.length := by
  obtain ⟨path, hpath, h⟩ := bind_eq_ok.1 h
  obtain ⟨calls, hcalls, h⟩ := bind_eq_ok.1 h
  obtain rfl := Except.ok.inj h
  have := path_rest hpath
  have := modifiers_rest hcalls
  simp only
  omega

def start : List (Lexeme × Span) → Position
  | [] => default
  | (_, span) :: _ => span.start

/-- An operand, compared with a literal or taken by itself. -/
def atom (r : Reading) (ls : List (Lexeme × Span)) : Except Fault (Read Condition) := do
  let left ← r.operand ls
  match left.rest with
  | [(.compare _, _)] => .error (r.atEnd .comparedLiteral)
  | (.compare op, _) :: (found, span) :: rest => do
    let right ← r.literal .comparedLiteral found
    return ⟨.compare left.value op right ⟨start ls, span.stop⟩, span.stop, rest⟩
  | rest => return ⟨.truthy left.value ⟨start ls, left.stop⟩, left.stop, rest⟩

theorem atom_rest {r : Reading} {ls : List (Lexeme × Span)} {read : Read Condition}
    (h : r.atom ls = .ok read) : read.rest.length < ls.length := by
  obtain ⟨left, hleft, h⟩ := bind_eq_ok.1 h
  have := operand_rest hleft
  split at h
  · simp at h
  · next heq =>
    obtain ⟨right, _, h⟩ := bind_eq_ok.1 h
    obtain rfl := Except.ok.inj h
    rw [heq] at this
    simp only [List.length_cons] at this ⊢
    omega
  · obtain rfl := Except.ok.inj h
    exact this

/-- A condition without `and` and `or` outside. The first number is how deep it stands. -/
def unary (r : Reading) : Nat → List (Lexeme × Span) → Except Fault (Read Condition)
  | depth, (.word word, span) :: rest =>
    if word = "not" then
      if r.limit < depth + 1 then .error ⟨.conditionTooDeep, r.whole⟩
      else do
        let inner ← r.unary (depth + 1) rest
        return ⟨.not inner.value ⟨span.start, inner.stop⟩, inner.stop, inner.rest⟩
    else r.atom ((.word word, span) :: rest)
  | _, ls => r.atom ls

theorem unary_rest {r : Reading} {depth : Nat} {ls : List (Lexeme × Span)} {read : Read Condition}
    (h : r.unary depth ls = .ok read) : read.rest.length < ls.length := by
  fun_induction unary r depth ls generalizing read with
  | case1 => simp at h
  | case2 _ _ rest _ ih =>
    obtain ⟨inner, hinner, h⟩ := bind_eq_ok.1 h
    obtain rfl := Except.ok.inj h
    have := ih hinner
    simp only [List.length_cons]
    omega
  | case3 | case4 => exact atom_rest h

def andChain (r : Reading) (start : Position) (left : Read Condition) :
    Except Fault (Read Condition) :=
  match _here : left.rest with
  | (.word word, _) :: rest =>
    if word = "and" then
      match _read : r.unary 1 rest with
      | .error fault => .error fault
      | .ok right =>
        r.andChain start
          ⟨.and left.value right.value ⟨start, right.stop⟩, right.stop, right.rest⟩
    else .ok left
  | _ => .ok left
termination_by left.rest.length
decreasing_by
  have := unary_rest _read
  rw [_here]
  simp only [List.length_cons]
  omega

theorem andChain_rest {r : Reading} {start : Position} {left read : Read Condition}
    (h : r.andChain start left = .ok read) : read.rest.length ≤ left.rest.length := by
  fun_induction andChain r start left with
  | case1 => simp at h
  | case2 _ _ rest right hright hrest ih =>
    have := ih h
    have := unary_rest hright
    rw [hrest]
    simp only [List.length_cons] at *
    omega
  | case3 | case4 =>
    obtain rfl := Except.ok.inj h
    exact Nat.le_refl _

def conjunction (r : Reading) (ls : List (Lexeme × Span)) : Except Fault (Read Condition) := do
  r.andChain (start ls) (← r.unary 1 ls)

theorem conjunction_rest {r : Reading} {ls : List (Lexeme × Span)} {read : Read Condition}
    (h : r.conjunction ls = .ok read) : read.rest.length < ls.length := by
  obtain ⟨left, hleft, h⟩ := bind_eq_ok.1 h
  have := unary_rest hleft
  have := andChain_rest h
  omega

def orChain (r : Reading) (start : Position) (left : Read Condition) :
    Except Fault (Read Condition) :=
  match _here : left.rest with
  | (.word word, _) :: rest =>
    if word = "or" then
      match _read : r.conjunction rest with
      | .error fault => .error fault
      | .ok right =>
        r.orChain start
          ⟨.or left.value right.value ⟨start, right.stop⟩, right.stop, right.rest⟩
    else .ok left
  | _ => .ok left
termination_by left.rest.length
decreasing_by
  have := conjunction_rest _read
  rw [_here]
  simp only [List.length_cons]
  omega

def disjunction (r : Reading) (ls : List (Lexeme × Span)) : Except Fault (Read Condition) := do
  r.orChain (start ls) (← r.conjunction ls)

def complete {α : Type} (r : Reading) (read : Read α) : Except Fault α :=
  match read.rest, r.fault with
  | (found, _) :: _, _ => .error (r.unexpected found .ending)
  | [], some fault => .error fault
  | [], none => .ok read.value

/-- A whole condition. It stands at depth one itself. -/
def condition (r : Reading) (ls : List (Lexeme × Span)) : Except Fault Condition := do
  if r.limit < 1 then throw ⟨.conditionTooDeep, r.whole⟩
  r.complete (← r.disjunction ls)

def output (r : Reading) (ls : List (Lexeme × Span)) : Except Fault Operand := do
  r.complete (← r.operand ls)

def guarded (r : Reading) (keyword : String) (ls : List (Lexeme × Span)) :
    Except Fault Condition :=
  match ls.drop 1, r.fault with
  | [], some fault => .error fault
  | [], none => .error ⟨.missingCondition keyword, r.whole⟩
  | rest, _ => r.condition rest

end Reading
end TitleTemplate
