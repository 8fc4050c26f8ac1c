import TitleTemplate.Proofs.Template.Lexing
import TitleTemplate.Proofs.Template.Threshold

/-!
Templates without conditionals. All their expressions ask for outputs, whatever the limit, and an
output begins with a path: a word without escapes, with blanks before it and after it something that
ends a word.
-/
namespace TitleTemplate

theorem splitWord_ends {cs : List Char} (noEscape : '\\' ∉ (splitWord cs).1) :
    EndsWord (splitWord cs).2 := by
  fun_induction splitWord cs with
  | case1 => exact endsWord_nil
  | case2 c cs word ih => exact absurd List.mem_cons_self noEscape
  | case3 c cs _ ends => exact endsWord_cons ends cs
  | case4 c cs _ inside word ih => exact ih fun member => noEscape (List.mem_cons_of_mem c member)

theorem spelled_word {unescaped : String → Lexeme} {cs : List Char} {word : String}
    (spells : spelled unescaped cs = .ok (.word word)) :
    '\\' ∉ cs ∧ unescaped (String.ofList cs) = .word word := by
  rw [spelled] at spells
  split_ifs at spells with escapes
  · cases read : unescape cs <;> rw [read] at spells <;> cases spells
  · exact ⟨escapes, Except.ok.inj spells⟩

theorem word_scanned {c : Char} {cs : List Char} {word : String}
    (scanned : (scanLexeme c cs).result = .ok (.word word)) :
    ∃ rest, c :: cs = word.toList ++ rest ∧ EndsWord rest := by
  have single : ∀ quote rest, (scanQuoted quote rest).result ≠ .ok (.word word) := by
    intro quote rest same
    rw [scanQuoted] at same
    split at same
    · have spells : spelled (Lexeme.text · false) _ = .ok (.word word) := same
      cases (spelled_word spells).2
    · cases same
  rw [scanLexeme.eq_def] at scanned
  split at scanned
  all_goals first
    | cases scanned
    | exact absurd scanned (single _ _)
    | skip
  rw [scanWord] at scanned
  dsimp only at scanned
  split_ifs at scanned
  obtain ⟨noEscape, same⟩ := spelled_word scanned
  obtain rfl := Lexeme.word.inj same
  refine ⟨(splitWordAfter c cs).2, ?_, ?_⟩
  · rw [String.toList_ofList, List.cons_append, splitWordAfter_append]
  · rw [List.mem_cons, not_or] at noEscape
    rw [splitWordAfter.eq_def, if_neg (Ne.symm noEscape.1)] at noEscape ⊢
    exact splitWord_ends noEscape.2

theorem outputs_of_body {ps : List (Piece × Span)} {ns : List Node} (body : IsBody ps ns)
    (flat : nestingWithin ns = 0) {item : Item} {span : Span}
    (member : (Piece.item item, span) ∈ ps) : ∃ o, item = .output o := by
  match body with
  | .nil => cases member
  | .text chars place later =>
    rw [nesting_text] at flat
    rcases List.mem_cons.1 member with same | inLater
    · cases same
    · exact outputs_of_body later flat inLater
  | .output o place later =>
    rw [nestingWithin] at flat
    rcases List.mem_cons.1 member with same | inLater
    · cases same
      exact ⟨o, rfl⟩
    · exact outputs_of_body later (by omega) inLater
  | .conditional guard opened first others later =>
    rw [nestingWithin, Node.nesting] at flat
    omega

theorem itemOf_of_asks {inner : List Char} {p : Position} {o : Operand}
    (asks : Asks inner (Lexed.scan p inner) (.output o)) (limit : Nat) :
    itemOf limit inner = some (.output o) := by
  have read := (item_eqWhen limit asks default).same (by simp [Item.guard?])
  have plain := read_relocate noPosition limit inner (Lexed.scan p inner) default
  rw [scan_plain, read] at plain
  exact congrArg Except.toOption plain.symm

theorem piece_of_token {ts : List (Token × Span)} {ps : List (Piece × Span)}
    (pieces : List.Forall₂ IsPiece ts ps) {t : Token × Span} (member : t ∈ ts) :
    ∃ piece ∈ ps, IsPiece t piece := by
  induction pieces with
  | nil => cases member
  | cons first later ih =>
    rcases List.mem_cons.1 member with rfl | inLater
    · exact ⟨_, List.mem_cons_self, first⟩
    · obtain ⟨piece, found, isPiece⟩ := ih inLater
      exact ⟨piece, List.mem_cons_of_mem _ found, isPiece⟩

theorem expression_output {limit : Nat} {template : String} {ns : List Node}
    (parsed : parse limit template = .ok ns) (flat : nestingWithin ns = 0) {inner : List Char}
    (member : .expression inner ∈ Token.scan template.toList) (other : Nat) :
    ∃ o, itemOf other inner = some (.output o) := by
  obtain ⟨pieces, arePieces, body⟩ := parse_sound parsed
  rw [← Token.locate_tokens .first (Token.scan template.toList), List.mem_map] at member
  obtain ⟨⟨_, span⟩, placed, rfl⟩ := member
  obtain ⟨_, inPieces, isPiece⟩ := piece_of_token arePieces placed
  cases isPiece with
  | expression _ asks =>
    obtain ⟨o, rfl⟩ := outputs_of_body body flat inPieces
    exact ⟨o, itemOf_of_asks asks _⟩

theorem output_of_read {limit : Nat} {inner : List Char} {lexed : Lexed} {span : Span}
    {operand : Operand} (read : Item.read limit inner lexed span = .ok (.output operand)) :
    (lexed.reading limit span).output lexed.lexemes = .ok operand := by
  simp only [Item.read] at read
  split at read
  · cases read
  · split at read
    · obtain ⟨o, found, same⟩ := bind_eq_ok.1 read
      obtain rfl := Item.output.inj (Except.ok.inj same)
      exact found
    · obtain ⟨_, _, same⟩ := bind_eq_ok.1 read
      cases same
    · obtain ⟨_, _, same⟩ := bind_eq_ok.1 read
      cases same
    · cases read
    · cases read

theorem output_begins {limit : Nat} {inner : List Char} {o : Operand}
    (read : itemOf limit inner = some (.output o)) :
    ∃ raw rest, inner.dropWhile isBlank = raw ++ rest ∧ (splitAtChar '.' raw).all isSegment = true ∧
      EndsWord rest := by
  rw [itemOf] at read
  cases found : Item.read limit inner (plainLexed inner) default with
  | error fault =>
    rw [found] at read
    cases read
  | ok item =>
    rw [found] at read
    obtain rfl := Option.some.inj read
    have operand := (Reading.output_iff.1 (output_of_read found)).2
    cases first : inner.dropWhile isBlank with
    | nil =>
      rw [plainLexed_blanks first] at operand
      exact absurd rfl (operand_ne_nil operand)
    | cons c tail =>
      rw [plainLexed_first first] at operand
      cases scanned : (scanLexeme c tail).result with
      | error fault =>
        rw [scanned] at operand
        exact absurd rfl (operand_ne_nil operand)
      | ok lexeme =>
        rw [scanned] at operand
        cases operand with
        | mk span named modified =>
          obtain ⟨rest, shape, ends⟩ := word_scanned scanned
          exact ⟨_, rest, shape, (isPath_iff.1 named).1, ends⟩

end TitleTemplate
