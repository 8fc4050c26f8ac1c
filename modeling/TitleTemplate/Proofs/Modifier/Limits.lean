import TitleTemplate.Proofs.Template.Contexts
import TitleTemplate.Proofs.Template.Truncation
import TitleTemplate.Proofs.Text.Replacing

/-!
What the limit makes of the results of modifiers. Some modifiers write their result piece by piece
and stop, others make all of it and cut it afterwards; both leave the cut of the whole text. The
rest never looks at the limit, and some of these make texts longer than what they are given.
-/
namespace TitleTemplate

def cutWithin (limit : Option Nat) (text : String) : String :=
  match limit with
  | none => text
  | some limit => cutString limit text

namespace BoundedText

def after (limit : Option Nat) (text : String) : BoundedText :=
  match limit with
  | none => ⟨text, none, false⟩
  | some limit => limited limit text

theorem text_after (limit : Option Nat) (text : String) :
    (after limit text).text = cutWithin limit text := by
  cases limit <;> rfl

theorem empty_eq_after (limit : Option Nat) : empty limit = after limit "" := by
  cases limit with
  | none => rfl
  | some limit => exact empty_eq_limited limit

theorem write_after (limit : Option Nat) (text more : String) :
    ((after limit text).write more).value = after limit (text ++ more) := by
  cases limit with
  | none => exact write_unlimited text more
  | some limit => exact write_limited limit text more

theorem after_append_of_full {limit : Option Nat} {text : String}
    (full : (after limit text).full = true) (more : String) :
    after limit (text ++ more) = after limit text := by
  cases limit with
  | none => cases full
  | some limit => exact limited_append_of_full full more

theorem writeAll_after (limit : Option Nat) (pieces : List String) (text : String) :
    (writeAll pieces (after limit text)).value = after limit (text ++ String.join pieces) := by
  induction pieces generalizing text with
  | nil => rw [writeAll, Logged.value_pure, String.join_nil, String.append_empty]
  | cons piece pieces ih =>
    rw [writeAll, Logged.value_bind, write_after, ih, String.join_cons, String.append_assoc]

theorem writeJoined_due (limit : Option Nat) (separator : String) (pieces : List String)
    (text : String) :
    (writeJoined separator true pieces (after limit text)).value =
      after limit (text ++ String.join (pieces.map (separator ++ ·))) := by
  induction pieces generalizing text with
  | nil => rw [writeJoined, Logged.value_pure, List.map_nil, String.join_nil, String.append_empty]
  | cons piece pieces ih =>
    rw [writeJoined]
    split
    · rename_i full
      rw [Logged.value_pure, after_append_of_full full]
    · rw [if_pos rfl, Logged.value_bind, Logged.value_bind, write_after, write_after, ih,
        List.map_cons, String.join_cons, String.append_assoc, String.append_assoc,
        String.append_assoc]

theorem intercalate_cons_eq_join (separator piece : String) (pieces : List String) :
    separator.intercalate (piece :: pieces) =
      piece ++ String.join (pieces.map (separator ++ ·)) := by
  induction pieces generalizing piece with
  | nil => simp
  | cons next pieces ih =>
    rw [String.intercalate_cons_cons, ih, List.map_cons, String.join_cons, String.append_assoc,
      String.append_assoc]

theorem writeJoined_after (limit : Option Nat) (separator : String) (pieces : List String) :
    (writeJoined separator false pieces (empty limit)).value =
      after limit (separator.intercalate pieces) := by
  rw [empty_eq_after]
  cases pieces with
  | nil => rw [writeJoined, Logged.value_pure, String.intercalate_nil]
  | cons piece pieces =>
    rw [writeJoined]
    split
    · rename_i full
      rw [Logged.value_pure, ← after_append_of_full full, String.empty_append]
    · rw [if_neg Bool.false_ne_true, Logged.value_bind, Logged.value_pure, Logged.value_bind,
        write_after, String.empty_append, writeJoined_due, intercalate_cons_eq_join]

end BoundedText

namespace Modifier

def argumentText (args : List Value) (place : Nat) (otherwise : String) : String :=
  (args[place]?.map Value.display).getD otherwise

def stopsAtLimit (args : List Value) : Modifier → Bool
  | .join | .upper | .lower | .title | .escape => true
  | .replace => argumentText args 0 "" ≠ ""
  | _ => false

def wholeText? (args : List Value) (v : Value) : Modifier → Option String
  | .join => v.items?.map fun items =>
      (argumentText args 0 ", ").intercalate (items.map Value.display)
  | .upper => v.scalarText?.map fun s => String.ofList (upperText s.toList)
  | .lower => v.scalarText?.map fun s => String.ofList (lowerText s.toList)
  | .title => v.scalarText?.map fun s => String.ofList (titleText s.toList)
  | .replace => v.scalarText?.map fun s => String.ofList
      (substitute (argumentText args 0 "").toList (argumentText args 1 "").toList s.toList)
  | .escape => v.scalarText?.map fun s => String.ofList (escapedMarkup s.toList)
  | _ => none

theorem argumentText_zero (args : List Value) (otherwise : String) :
    (args.head?.map Value.display).getD otherwise = argumentText args 0 otherwise := by
  rw [argumentText, List.head?_eq_getElem?]

theorem cutTo_eq (limit : Option Nat) (cs : List Char) :
    cutTo limit cs = .str (cutWithin limit (String.ofList cs)) := by
  cases limit <;> rfl

theorem joinItems_value (limit : Option Nat) (args items : List Value) :
    (joinItems limit args items).value = .str (cutWithin limit
      ((argumentText args 0 ", ").intercalate (items.map Value.display))) := by
  rw [joinItems, Logged.value_bind, Logged.value_pure, BoundedText.writeJoined_after,
    BoundedText.text_after, argumentText_zero]

theorem replaceAll_value {args : List Value} (sought : argumentText args 0 "" ≠ "")
    (limit : Option Nat) (s : String) :
    (replaceAll limit args s).value = .str (cutWithin limit (String.ofList
      (substitute (argumentText args 0 "").toList (argumentText args 1 "").toList s.toList))) := by
  have joined : (argumentText args 1 "").intercalate
      ((piecesBetween (argumentText args 0 "").toList s.toList).map String.ofList) = String.ofList
      (substitute (argumentText args 0 "").toList (argumentText args 1 "").toList s.toList) := by
    rw [← String.toList_inj, String.toList_intercalate, String.toList_ofList, List.map_map,
      ← intercalate_piecesBetween]
    simp [Function.comp_def]
  rw [replaceAll, argumentText_zero, if_neg sought, Logged.value_bind, Logged.value_pure,
    BoundedText.writeJoined_after, BoundedText.text_after, ← argumentText, joined]

theorem replaceAll_none {args : List Value} (nothing : argumentText args 0 "" = "")
    (limit : Option Nat) (s : String) : replaceAll limit args s = pure (.str s) := by
  rw [replaceAll, argumentText_zero, if_pos nothing]

theorem escapeMarkup_value (limit : Option Nat) (s : String) :
    (escapeMarkup limit s).value =
      .str (cutWithin limit (String.ofList (escapedMarkup s.toList))) := by
  have joined : String.join ((markupPieces [] s.toList).map String.ofList) =
      String.ofList (escapedMarkup s.toList) := by
    have pieces := flatten_markupPieces [] s.toList
    rw [List.reverse_nil, List.nil_append] at pieces
    rw [← pieces, ← String.toList_inj]
    simp [List.flatMap_map]
  rw [escapeMarkup, Logged.value_bind, Logged.value_pure, BoundedText.empty_eq_after,
    BoundedText.writeAll_after, BoundedText.text_after, String.empty_append, joined]

theorem transform_stopping {m : Modifier} {args : List Value}
    (stops : m.stopsAtLimit args = true) (v : Value) (limit : Option Nat) :
    (m.transform v args limit).value =
      (m.wholeText? args v).map fun text => .str (cutWithin limit text) := by
  cases m with
  | join =>
    rw [transform, value_mapM, wholeText?, Option.map_map]
    exact congrArg (v.items?.map ·) (funext fun items => joinItems_value limit args items)
  | upper | lower | title =>
    simp only [transform, Logged.value_pure, wholeText?, Option.map_map, cutTo_eq]
    rfl
  | replace =>
    have sought : argumentText args 0 "" ≠ "" := by simpa [stopsAtLimit] using stops
    rw [transform, value_mapM, wholeText?, Option.map_map]
    exact congrArg (v.scalarText?.map ·) (funext fun s => replaceAll_value sought limit s)
  | escape =>
    rw [transform, value_mapM, wholeText?, Option.map_map]
    exact congrArg (v.scalarText?.map ·) (funext fun s => escapeMarkup_value limit s)
  | bytes | bytes10 | time | comma | first | last | sort | length | reverse | truncate | trim
  | string => cases stops

theorem transform_other {m : Modifier} {args : List Value}
    (other : m.stopsAtLimit args = false) (v : Value) (limit : Option Nat) :
    m.transform v args limit = m.transform v args none := by
  cases m with
  | join | upper | lower | title | escape => cases other
  | replace =>
    have nothing : argumentText args 0 "" = "" := by simpa [stopsAtLimit] using other
    rw [transform, transform, funext (replaceAll_none nothing limit),
      funext (replaceAll_none nothing none)]
  | bytes | bytes10 | time | comma | first | last | sort | length | reverse | truncate | trim
  | string => rfl

end Modifier

/-- For every value, whatever the limit: a modifier that grows what it is given leaves the cut of
the whole text it stands for, which is all of that text if it fits. What it does not accept becomes
undefined. -/
theorem growing_results_cut (m : Modifier) (args : List Value)
    (stops : m.stopsAtLimit args = true) (v : Value) (limit : Nat) :
    let result (limit : Option Nat) := ((ModifierName.known m).apply v args limit).value
    match m.wholeText? args v with
    | some whole =>
      result (some limit) = .str (cutString limit whole) ∧
        result none = .str whole ∧
        (whole.utf8ByteSize ≤ limit → result (some limit) = result none)
    | none => result (some limit) = .undefined ∧ result none = .undefined := by
  intro result
  have shape : ∀ limit, result limit =
      ((m.wholeText? args v).map fun text => .str (cutWithin limit text)).getD .undefined := by
    intro limit
    rw [← Modifier.transform_stopping stops]
    exact apply_known m v args limit
  rw [shape none, shape (some limit)]
  cases m.wholeText? args v with
  | none => exact ⟨rfl, rfl⟩
  | some whole =>
    refine ⟨rfl, rfl, fun fits => ?_⟩
    exact congrArg Value.str (cutString_of_fits fits)

/-- A replacement that is cut within, where the byte that is left holds no whole character. -/
theorem replacement_cut :
    let args : List Value := [.str "a", .str "ßß"]
    Modifier.replace.stopsAtLimit args = true ∧
      ((ModifierName.known .replace).apply (.str "aéa") args (some 5)).value = .str "ßß" ∧
      ((ModifierName.known .replace).apply (.str "aéa") args none).value = .str "ßßéßß" := by
  intro args
  have stops : Modifier.replace.stopsAtLimit args = true := by decide
  have whole : Modifier.replace.wholeText? args (.str "aéa") = some "ßßéßß" := by
    decide +kernel
  have result := growing_results_cut .replace args stops (.str "aéa") 5
  rw [whole] at result
  obtain ⟨limited, unlimited, _⟩ := result
  exact ⟨stops, limited.trans (congrArg Value.str (by decide +kernel)), unlimited⟩

/-- A value that is no text, or a text of at most so many bytes. -/
def Value.TextWithin (limit : Nat) (v : Value) : Prop := ∀ s, v = .str s → s.utf8ByteSize ≤ limit

theorem textWithin_str {limit : Nat} {s : String} :
    (Value.str s).TextWithin limit ↔ s.utf8ByteSize ≤ limit :=
  ⟨fun within => within s rfl, fun fits _ same => Value.str.inj same ▸ fits⟩

instance (limit : Nat) : (v : Value) → Decidable (v.TextWithin limit)
  | .str _ => decidable_of_iff' _ textWithin_str
  | .undefined | .none | .bool _ | .int _ | .float _ | .seq _ | .map _ => .isTrue nofun

theorem textWithin_undefined (limit : Nat) : Value.undefined.TextWithin limit := by
  intro s same
  cases same

theorem textWithin_seq (limit : Nat) (items : List Value) :
    (Value.seq items).TextWithin limit := by
  intro s same
  cases same

theorem textWithin_ofNat (limit n : Nat) : (Value.ofNat n).TextWithin limit := by
  intro s same
  rw [Value.ofNat, Value.ofInt] at same
  split at same <;> cases same

theorem textWithin_ofChars {limit : Nat} {s : String} {cs : List Char}
    (fits : s.utf8ByteSize ≤ limit) (shorter : byteSize cs ≤ byteSize s.toList) :
    (Value.ofChars cs).TextWithin limit := by
  rw [utf8ByteSize_eq_byteSize] at fits
  rw [Value.ofChars, textWithin_str, utf8ByteSize_eq_byteSize, String.toList_ofList]
  exact shorter.trans fits

theorem truncateTo_textWithin {limit : Nat} {s : String} (fits : s.utf8ByteSize ≤ limit)
    (args : List Value) : (Modifier.truncateTo args s).value.TextWithin limit := by
  unfold Modifier.truncateTo
  split
  · split
    · exact textWithin_str.2 fits
    · exact textWithin_ofChars fits (byteSize_le_of_sublist (List.take_sublist _ _))
  · exact textWithin_str.2 fits

theorem byteSize_trimBlanks (cs : List Char) : byteSize (trimBlanks cs) ≤ byteSize cs := by
  rw [trimBlanks, byteSize_reverse, skipBlanks]
  refine (byteSize_le_of_sublist (List.dropWhile_sublist _)).trans ?_
  rw [byteSize_reverse, skipBlanks]
  exact byteSize_le_of_sublist (List.dropWhile_sublist _)

theorem textWithin_cut (limit : Nat) (whole : String) :
    (Value.str (cutString limit whole)).TextWithin limit := by
  rw [textWithin_str, utf8ByteSize_eq_byteSize, toList_cutString]
  exact byteSize_cut limit whole.toList

/-- A modifier that stops at the limit keeps it, and the limit is nothing to any other. -/
theorem apply_textWithin_iff (m : Modifier) (v : Value) (args : List Value) (limit : Nat) :
    ((ModifierName.known m).apply v args (some limit)).value.TextWithin limit ↔
      m.stopsAtLimit args = true ∨
        ((ModifierName.known m).apply v args none).value.TextWithin limit := by
  rw [apply_known, apply_known]
  cases stops : m.stopsAtLimit args with
  | true =>
    rw [Modifier.transform_stopping stops]
    cases m.wholeText? args v with
    | none => exact iff_of_true (textWithin_undefined limit) (.inl rfl)
    | some whole => exact iff_of_true (textWithin_cut limit whole) (.inl rfl)
  | false => simp [Modifier.transform_other stops v (some limit)]

instance : LawfulMonad Logged :=
  .mk' Logged (fun x => congrArg (Logged.mk x.value) (List.append_nil x.events)) (fun _ _ => rfl)
    fun x f g => congrArg (Logged.mk _) (List.append_assoc x.events _ _)

theorem evaluate_append (scope : Scope) (path : List String) (before : List ModifierCall)
    (call : ModifierCall) :
    (Operand.evaluate scope ⟨path, before ++ [call]⟩).value =
      (call.modifier.apply (Operand.evaluate scope ⟨path, before⟩).value call.args
        scope.limit).value := by
  rw [Operand.evaluate, List.foldlM_append, Logged.value_bind]
  rfl

theorem result_stays_within {m : Modifier}
    (keeping : m ∈ [.join, .sort, .length, .upper, .lower, .title, .escape]) (v : Value)
    (args : List Value) (limit : Nat) :
    ((ModifierName.known m).apply v args (some limit)).value.TextWithin limit := by
  rw [apply_textWithin_iff]
  cases m with
  | join | upper | lower | title | escape => exact .inl rfl
  | sort =>
    right
    rw [apply_known, Modifier.transform, Logged.value_pure]
    cases v.items? with
    | none => exact textWithin_undefined limit
    | some items => exact textWithin_seq limit (Value.sort items)
  | length =>
    right
    rw [apply_known, Modifier.transform, Logged.value_pure]
    cases v.length?.or (v.scalarText?.map String.length) with
    | none => exact textWithin_undefined limit
    | some n =>
      rw [Option.map_some, Option.getD_some]
      exact textWithin_ofNat limit n
  | bytes | bytes10 | time | comma | first | last | reverse | truncate | trim | replace
  | string => simp at keeping

theorem text_stays_within {m : Modifier} (other : m ∉ [.bytes, .bytes10, .time, .comma])
    {s : String} {limit : Nat} (fits : s.utf8ByteSize ≤ limit) (args : List Value) :
    ((ModifierName.known m).apply (.str s) args (some limit)).value.TextWithin limit := by
  rw [apply_textWithin_iff]
  cases stops : m.stopsAtLimit args with
  | true => exact .inl rfl
  | false =>
    right
    rw [apply_known]
    cases m with
    | bytes | bytes10 | time | comma => simp at other
    | join | upper | lower | title | escape => cases stops
    | first | last | sort => exact textWithin_undefined limit
    | length =>
      rw [Modifier.transform, Logged.value_pure, Value.length?, Option.some_or, Option.map_some,
        Option.getD_some]
      exact textWithin_ofNat limit s.length
    | string => exact textWithin_str.2 fits
    | reverse => exact textWithin_ofChars fits (byteSize_reverse s.toList).le
    | trim => exact textWithin_ofChars fits (byteSize_trimBlanks s.toList)
    | truncate =>
      rw [Modifier.transform, value_mapM]
      exact truncateTo_textWithin fits args
    | replace =>
      have nothing : Modifier.argumentText args 0 "" = "" := by
        simpa [Modifier.stopsAtLimit] using stops
      rw [Modifier.transform, value_mapM, Value.scalarText?, Option.map_some, Option.getD_some,
        Modifier.replaceAll_none nothing]
      exact textWithin_str.2 fits

/-- When the value that a modifier leaves, anywhere in a chain, is a text within the limit: the
modifier stops at the limit, or its text would have fitted without one. Seven modifiers keep the
limit whatever they are given, and all but four keep a text within it that was within it. -/
theorem results_within_limit_iff (context : Value) (path : List String)
    (before : List ModifierCall) (m : Modifier) (args : List Value) (limit : Nat) :
    let scope : Scope := ⟨context, some limit⟩
    let v := (Operand.evaluate scope ⟨path, before⟩).value
    let w := (Operand.evaluate scope ⟨path, before ++ [⟨.known m, args⟩]⟩).value
    (w.TextWithin limit ↔ m.stopsAtLimit args = true ∨
      ((ModifierName.known m).apply v args none).value.TextWithin limit) ∧
    ((∀ v args limit,
        ((ModifierName.known m).apply v args (some limit)).value.TextWithin limit) ↔
      m ∈ [.join, .sort, .length, .upper, .lower, .title, .escape]) ∧
    ((∀ (s : String) args limit, s.utf8ByteSize ≤ limit →
        ((ModifierName.known m).apply (.str s) args (some limit)).value.TextWithin limit) ↔
      m ∉ [.bytes, .bytes10, .time, .comma]) := by
  intro scope v w
  refine ⟨?_, ⟨fun keeps => ?_, fun keeping => result_stays_within keeping⟩,
    ⟨fun keeps member => ?_, fun other s args limit fits => text_stays_within other fits args⟩⟩
  · have step : w = ((ModifierName.known m).apply v args (some limit)).value :=
      evaluate_append scope path before ⟨.known m, args⟩
    rw [step]
    exact apply_textWithin_iff m v args limit
  · cases m with
    | join | sort | length | upper | lower | title | escape => simp
    | bytes | bytes10 | time | comma => exact absurd (keeps (.int 0) [] 0) (by decide +kernel)
    | first | last => exact absurd (keeps (.seq [.str "a"]) [] 0) (by decide +kernel)
    | reverse | truncate | trim | replace | string =>
      exact absurd (keeps (.str "a") [] 0) (by decide +kernel)
  · have grown : ¬ ((ModifierName.known m).apply (.str "1234") [] (some 4)).value.TextWithin 4 := by
      simp only [List.mem_cons, List.not_mem_nil, or_false] at member
      rcases member with rfl | rfl | rfl | rfl <;> decide +kernel
    exact grown (keeps "1234" [] 4 (by decide))

/-- Seven digits fit seven bytes, and grouped by commas they do not. -/
theorem grouped_digits_beyond_limit :
    "1234567".utf8ByteSize = 7 ∧
      ((ModifierName.known .comma).apply (.str "1234567") [] (some 7)).value =
        .str "1,234,567" ∧
      ¬ "1,234,567".utf8ByteSize ≤ 7 := by
  have grouped : thousandsText (.str "1234567") = some "1,234,567" := by decide +kernel
  refine ⟨by decide, ?_, by decide⟩
  rw [apply_known, Modifier.transform, Logged.value_pure, grouped, Option.map_some,
    Option.getD_some]

end TitleTemplate
