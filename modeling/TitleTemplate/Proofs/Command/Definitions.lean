import TitleTemplate.Proofs.Json.Update

/-!
Definitions on the command line. A text is stored as it is under its key, unless it holds the mark of
a raw value: the item is divided at the first such mark, wherever it stands, and then the key is
longer and the text is what comes behind the mark.
-/
namespace TitleTemplate

/-! Dividing at the first occurrence. -/

theorem splitOnce_eq_none_iff {mark : List Char} (some : mark ≠ []) (cs : List Char) :
    splitOnce mark cs = none ↔ ¬ mark <:+: cs := by
  induction cs with
  | nil => simp [splitOnce, some]
  | cons c cs ih =>
    rw [splitOnce, List.infix_cons_iff, ← List.isPrefixOf_iff_prefix]
    split_ifs with here
    · simp [here]
    · simp [here, ih]

theorem infix_of_begins {mark before after : List Char} (some : before ≠ [])
    (begins : mark <+: before ++ mark ++ after) : mark <:+: before ++ mark.dropLast := by
  have parts : mark.dropLast ++ mark.drop (mark.length - 1) = mark := by
    rw [List.dropLast_eq_take, List.take_append_drop]
  have whole : before ++ mark ++ after =
      before ++ mark.dropLast ++ (mark.drop (mark.length - 1) ++ after) := by
    rw [List.append_assoc before mark.dropLast, ← List.append_assoc mark.dropLast, parts,
      ← List.append_assoc]
  have fits : mark.length ≤ (before ++ mark.dropLast).length := by
    have positive := List.length_pos_of_ne_nil some
    rw [List.length_append, List.length_dropLast]
    omega
  rw [whole] at begins
  exact (List.prefix_of_prefix_length_le begins (List.prefix_append _ _) fits).isInfix

theorem splitOnce_eq_some_iff {mark : List Char} (some : mark ≠ []) {cs before after : List Char} :
    splitOnce mark cs = .some (before, after) ↔
      cs = before ++ mark ++ after ∧ ¬ mark <:+: before ++ mark.dropLast := by
  have short : ¬ mark <:+: mark.dropLast := by
    intro inside
    have bound := inside.length_le
    have positive := List.length_pos_of_ne_nil some
    rw [List.length_dropLast] at bound
    omega
  induction cs generalizing before with
  | nil => simp [splitOnce, some]
  | cons c cs ih =>
    rw [splitOnce]
    split_ifs with here
    · rw [List.isPrefixOf_iff_prefix] at here
      obtain ⟨rest, whole⟩ := here
      rw [← whole, List.drop_left, Option.some_inj, Prod.mk.injEq]
      constructor
      · rintro ⟨rfl, rfl⟩
        exact ⟨rfl, short⟩
      · rintro ⟨same, first⟩
        cases before with
        | nil => exact ⟨rfl, List.append_cancel_left same⟩
        | cons b before =>
          have begins := same ▸ List.prefix_append mark rest
          exact absurd (infix_of_begins (List.cons_ne_nil b before) begins) first
    · rw [List.isPrefixOf_iff_prefix] at here
      rw [Option.map_eq_some_iff]
      constructor
      · rintro ⟨⟨front, behind⟩, found, same⟩
        obtain ⟨rfl, rfl⟩ := Prod.mk.inj same
        obtain ⟨divided, first⟩ := ih.1 found
        refine ⟨by rw [divided]; rfl, fun inside => ?_⟩
        rcases List.infix_cons_iff.1 inside with begins | later
        · -- What begins the text before the mark begins the whole text.
          have whole : c :: (front ++ mark.dropLast) <+: c :: cs := by
            rw [List.prefix_cons_inj, divided, List.append_assoc]
            exact (List.prefix_append_right_inj front).2
              ((List.dropLast_prefix mark).trans (List.prefix_append mark behind))
          exact here (begins.trans whole)
        · exact first later
      · rintro ⟨same, first⟩
        cases before with
        | nil => exact absurd ⟨after, same.symm⟩ here
        | cons b before =>
          obtain ⟨rfl, later⟩ := List.cons.inj same
          refine ⟨(before, after), ih.2 ⟨later, fun inside => first ?_⟩, rfl⟩
          exact List.infix_cons inside

theorem splitOnce_append {m : Char} {key : List Char} (clean : m ∉ key) (mark cs : List Char) :
    splitOnce (m :: mark) (key ++ cs) =
      (splitOnce (m :: mark) cs).map fun (before, after) => (key ++ before, after) := by
  induction key with
  | nil => simp
  | cons c key ih =>
    obtain ⟨other, rest⟩ : m ≠ c ∧ m ∉ key := by simpa using clean
    have apart : ¬ (m :: mark).isPrefixOf (c :: (key ++ cs)) = true := by
      simp [List.isPrefixOf, other]
    rw [List.cons_append, splitOnce, if_neg apart, ih rest, Option.map_map]
    rfl

/-! Reading an item. -/

/-- The data after a value has been set at a dotted key, and what is wrong with the key. -/
def setAt (key : String) (value : Json) (entries : List (String × Json)) :
    Option DefineFault × List (String × Json) :=
  match Json.putAt value (Json.keyPath key) entries with
  | (true, entries) => (none, entries)
  | (false, entries) => (some (.invalidPath key), entries)

theorem setAt_entries (key : String) (value : Json) (entries : List (String × Json)) :
    (setAt key value entries).2 = (Json.putAt value (Json.keyPath key) entries).2 := by
  rw [setAt]
  split <;> rename_i same <;> rw [same]

theorem define_of_read {item key : String} {value : Json}
    (read : readDefine item = .ok (key, value)) (entries : List (String × Json)) :
    define item entries = setAt key value entries := by
  rw [define, read]
  rfl

theorem setAt_named {key : String} (named : ∀ s ∈ Json.keyPath key, s ≠ "") (value : Json)
    (entries : List (String × Json)) :
    setAt key value entries = (none, (Json.putAt value (Json.keyPath key) entries).2) := by
  have done := (Json.putAt_done_iff value (Json.keyPath_ne_nil key) entries).2 named
  rw [setAt]
  split <;> rename_i same <;> rw [same] at done ⊢
  cases done

section Items
variable {key text : String} (plain : ∀ c ∈ key.toList, c ≠ '=' ∧ c ≠ ':')
include plain

theorem splitOnce_item : splitOnce [':', '='] (key ++ "=" ++ text).toList =
    (splitOnce [':', '='] text.toList).map fun (before, raw) =>
      ((key ++ "=").toList ++ before, raw) := by
  have clean : ':' ∉ (key ++ "=").toList := by
    intro member
    rw [String.toList_append, List.mem_append] at member
    rcases member with inKey | inMark
    · exact (plain ':' inKey).2 rfl
    · exact absurd inMark (by decide)
  rw [String.toList_append, splitOnce_append clean]

theorem readDefine_text (clean : ¬ [':', '='] <:+: text.toList) :
    readDefine (key ++ "=" ++ text) = .ok (key, .str text) := by
  have noRaw : splitOnce [':', '='] (key ++ "=" ++ text).toList = none := by
    rw [splitOnce_item plain, (splitOnce_eq_none_iff (List.cons_ne_nil _ _) _).2 clean]
    rfl
  have divided : splitOnce ['='] (key ++ "=" ++ text).toList = some (key.toList, text.toList) := by
    have here : splitOnce ['='] ('=' :: text.toList) = some ([], text.toList) := by
      simp [splitOnce, List.isPrefixOf]
    have same : (key ++ "=" ++ text).toList = key.toList ++ '=' :: text.toList := by
      rw [String.toList_append, String.toList_append, List.append_assoc]
      rfl
    rw [same, splitOnce_append (fun member => (plain '=' member).1 rfl), here]
    simp
  rw [readDefine, noRaw, divided]
  simp only [String.ofList_toList]

theorem readDefine_raw {before raw : List Char} (divided : text.toList = before ++ [':', '='] ++ raw)
    (first : ¬ [':', '='] <:+: before) :
    readDefine (key ++ "=" ++ text) =
      match Json.parse? Json.maxLevels (String.ofList raw) with
      | some value => .ok (key ++ "=" ++ String.ofList before, value.tree)
      | none => .error (.invalidRaw (String.ofList raw)) := by
  have noneEarlier : ¬ [':', '='] <:+: before ++ [':'] := by
    intro inside
    rcases List.infix_concat_iff.1 inside with ends | within
    · obtain ⟨front, same⟩ := ends
      have last : '=' = ':' := by simpa using congrArg List.getLast? same
      exact absurd last (by decide)
    · exact first within
  have found := (splitOnce_eq_some_iff (List.cons_ne_nil ':' ['='])).2 ⟨divided, noneEarlier⟩
  have longer : String.ofList ((key ++ "=").toList ++ before) =
      key ++ "=" ++ String.ofList before := by
    rw [String.ofList_append, String.ofList_toList]
  rw [readDefine, splitOnce_item plain, found, ← longer]
  rfl

theorem define_raw {before raw : List Char} (divided : text.toList = before ++ [':', '='] ++ raw)
    (first : ¬ [':', '='] <:+: before) (entries : List (String × Json)) :
    define (key ++ "=" ++ text) entries =
      match Json.parse? Json.maxLevels (String.ofList raw) with
      | some value => setAt (key ++ "=" ++ String.ofList before) value.tree entries
      | none => (some (.invalidRaw (String.ofList raw)), entries) := by
  have read := readDefine_raw plain divided first
  cases parsed : Json.parse? Json.maxLevels (String.ofList raw) with
  | some value =>
    rw [parsed] at read
    exact define_of_read read entries
  | none =>
    rw [parsed] at read
    rw [define, read]

end Items

theorem reach_longer_key {key : String} (named : ∀ s ∈ Json.keyPath key, s ≠ "")
    (before : List Char) (value : Json) :
    Json.reach? (Json.keyPath key)
      (.object (setAt (key ++ "=" ++ String.ofList before) value []).2) = none := by
  have divided := (List.dropLast_append_getLast (splitAtChar_ne_nil '.' key.toList)).symm
  generalize (splitAtChar '.' key.toList).dropLast = front at divided
  generalize (splitAtChar '.' key.toList).getLast _ = last at divided
  obtain ⟨part, parts, begins, longer⟩ := splitAtChar_add divided ('=' :: before)
  -- The key that stands where the last one stood is longer.
  have apart : last ≠ last ++ part := by
    intro same
    have none : part = [] := by simpa using same
    have other : ¬ '=' = '.' := by decide
    rw [splitAtChar, if_neg other, none] at begins
    split at begins <;> cases begins
  have path : Json.keyPath key = front.map String.ofList ++ [String.ofList last] := by
    rw [Json.keyPath, divided, List.map_append]
    rfl
  have path' : Json.keyPath (key ++ "=" ++ String.ofList before) =
      front.map String.ofList ++ String.ofList (last ++ part) :: parts.map String.ofList := by
    have chars : (key ++ "=" ++ String.ofList before).toList = key.toList ++ '=' :: before := by
      rw [String.toList_append, String.toList_append, @String.toList_ofList before,
        List.append_assoc]
      rfl
    rw [Json.keyPath, chars, longer, List.map_append]
    rfl
  have namedFront : ∀ s ∈ front.map String.ofList, s ≠ "" := fun s member =>
    named s (path ▸ List.mem_append_left _ member)
  obtain ⟨inner, reached, kept⟩ := Json.reach_putAt_front namedFront value
    (String.ofList (last ++ part)) (parts.map String.ofList) []
  have empty : Json.entriesOf (Json.reach? (front.map String.ofList) (.object [])) = [] := by
    cases front <;> rfl
  have missing := kept (String.ofList last) fun same => apart (String.ofList_injective same)
  rw [empty] at missing
  rw [setAt_entries, path, path', Json.reach_append, reached, Option.bind_some, Json.reach_object,
    missing]
  rfl

/-- Which texts are stored as they are, whatever the data: those that do not hold the mark of a raw
value. If a text holds it, the item is divided at its first occurrence; then the text before it
belongs to the key, and what comes behind it is the value if it is JSON, and a fault if not. -/
theorem text_stored_iff {key text : String} (plain : ∀ c ∈ key.toList, c ≠ '=' ∧ c ≠ ':')
    (named : ∀ s ∈ Json.keyPath key, s ≠ "") :
    let item := key ++ "=" ++ text
    ((∀ entries, ∃ after, define item entries = (none, after) ∧
        Json.reach? (Json.keyPath key) (.object after) = some (.str text)) ↔
      ¬ [':', '='] <:+: text.toList) ∧
    ∀ before raw, text.toList = before ++ [':', '='] ++ raw → ¬ [':', '='] <:+: before →
      ∀ entries, define item entries =
        match Json.parse? Json.maxLevels (String.ofList raw) with
        | some value => setAt (key ++ "=" ++ String.ofList before) value.tree entries
        | none => (some (.invalidRaw (String.ofList raw)), entries) := by
  intro item
  refine ⟨⟨fun stored inside => ?_, fun clean entries => ?_⟩,
    fun before raw divided first entries => define_raw plain divided first entries⟩
  · obtain ⟨after, done, reached⟩ := stored []
    have found : splitOnce [':', '='] text.toList ≠ none :=
      fun none => (splitOnce_eq_none_iff (List.cons_ne_nil _ _) _).1 none inside
    obtain ⟨⟨before, raw⟩, found⟩ := Option.ne_none_iff_exists'.1 found
    obtain ⟨divided, first⟩ := (splitOnce_eq_some_iff (List.cons_ne_nil _ _)).1 found
    have clean : ¬ [':', '='] <:+: before := fun within =>
      first (within.trans (List.prefix_append before _).isInfix)
    rw [define_raw plain divided clean] at done
    split at done
    · rename_i value parsed
      have nothing := reach_longer_key named before value.tree
      rw [done, reached] at nothing
      cases nothing
    · cases done
  · have set := define_of_read (readDefine_text plain clean) entries
    rw [setAt_named named] at set
    exact ⟨_, set, Json.reach_putAt (Json.keyPath_ne_nil key) named _ entries⟩

theorem text_stored_dotted :
    let key := "a.b"
    let text := "x=:y"
    (∀ c ∈ key.toList, c ≠ '=' ∧ c ≠ ':') ∧ (∀ s ∈ Json.keyPath key, s ≠ "") ∧
      Json.keyPath key = ["a", "b"] ∧
      ∃ after, define (key ++ "=" ++ text) [("a", .null)] = (none, after) ∧
        Json.reach? (Json.keyPath key) (.object after) = some (.str "x=:y") := by
  intro key text
  have plain : ∀ c ∈ key.toList, c ≠ '=' ∧ c ≠ ':' := by simp [key]
  have named : ∀ s ∈ Json.keyPath key, s ≠ "" := by decide
  have stored := (@text_stored_iff key text plain named).1.2 (by decide) [("a", .null)]
  exact ⟨plain, named, by decide, stored⟩

/-- A text that is to be stored under one key is taken for a number under another. -/
theorem text_taken_for_json :
    define ("a" ++ "=" ++ "b:=1") [] = (none, [("a=b", .number (.integer 1))]) ∧
      Json.reach? (Json.keyPath "a") (.object [("a=b", .number (.integer 1))]) = none := by
  have plain : ∀ c ∈ "a".toList, c ≠ '=' ∧ c ≠ ':' := by simp
  have divided : "b:=1".toList = ['b'] ++ [':', '='] ++ ['1'] := by decide
  have one : Json.parse? Json.maxLevels (String.ofList ['1']) = some (.number (.integer 1)) := rfl
  have read := readDefine_raw plain divided (by decide)
  rw [one] at read
  rw [define_of_read read]
  exact ⟨rfl, rfl⟩

end TitleTemplate
