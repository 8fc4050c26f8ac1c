import TitleTemplate.Proofs.Modifier.Limits

/-!
Text escaped for HTML. None of the characters that could open or close markup is left in it, also
when it is cut at a limit. Without a limit every ampersand begins an entity, and reading the entities
gives back the text, so that no two texts are escaped alike.
-/
namespace TitleTemplate

/-- The entities, each with the character that it stands for. -/
def entityNames : List (List Char × Char) :=
  [("&lt;".toList, '<'), ("&gt;".toList, '>'), ("&amp;".toList, '&'), ("&quot;".toList, '"'),
    ("&#x27;".toList, '\'')]

/-- The text with every entity read, from left to right. What is not one of the five is left as it
is. -/
def decodeEntities : List Char → List Char
  | [] => []
  | c :: cs =>
    match entityNames.find? fun e => e.1.isPrefixOf (c :: cs) with
    | some (name, d) => d :: decodeEntities (cs.drop (name.length - 1))
    | none => c :: decodeEntities cs
termination_by cs => cs.length
decreasing_by all_goals simp only [List.length_cons, List.length_drop]; omega

def isMarkup (c : Char) : Bool := ['<', '>', '"', '\''].contains c

/-! What stands for one character. -/

theorem entity_eq_some_iff (c : Char) (name : List Char) :
    entity? c = some name ↔ (name, c) ∈ entityNames := by
  simp only [entityNames, List.mem_cons, List.not_mem_nil, or_false, Prod.mk.injEq]
  unfold entity?
  split_ifs <;> simp_all [eq_comm]

theorem ne_ampersand_of_entity_eq_none {c : Char} (plain : entity? c = none) :
    c ≠ '&' ∧ isMarkup c = false := by
  unfold entity? at plain
  split_ifs at plain with less greater ampersand double single
  simp [isMarkup, less, greater, ampersand, double, single]

theorem entityNames_shape {name : List Char} {d : Char} (member : (name, d) ∈ entityNames) :
    ∃ rest, name = '&' :: rest ∧ '&' ∉ rest ∧ name.all (!isMarkup ·) = true := by
  simp only [entityNames, List.mem_cons, List.not_mem_nil, or_false, Prod.mk.injEq] at member
  rcases member with ⟨rfl, rfl⟩ | ⟨rfl, rfl⟩ | ⟨rfl, rfl⟩ | ⟨rfl, rfl⟩ | ⟨rfl, rfl⟩ <;>
    exact ⟨_, rfl, by decide, by decide⟩

/-! Reading an escaped text. -/

theorem decodeEntities_entity {name : List Char} {d : Char} (member : (name, d) ∈ entityNames)
    (cs : List Char) : decodeEntities (name ++ cs) = d :: decodeEntities cs := by
  simp only [entityNames, List.mem_cons, List.not_mem_nil, or_false, Prod.mk.injEq] at member
  rcases member with ⟨rfl, rfl⟩ | ⟨rfl, rfl⟩ | ⟨rfl, rfl⟩ | ⟨rfl, rfl⟩ | ⟨rfl, rfl⟩ <;>
    simp [decodeEntities, entityNames]

theorem decodeEntities_plain {c : Char} (other : c ≠ '&') (cs : List Char) :
    decodeEntities (c :: cs) = c :: decodeEntities cs := by
  have noEntity : entityNames.find? (fun e => e.1.isPrefixOf (c :: cs)) = none := by
    simp [entityNames, Ne.symm other]
  rw [decodeEntities, noEntity]

theorem escapedMarkup_cons (c : Char) (cs : List Char) :
    escapedMarkup (c :: cs) = (entity? c).getD [c] ++ escapedMarkup cs :=
  List.flatMap_cons

theorem decodeEntities_escapedMarkup (cs : List Char) :
    decodeEntities (escapedMarkup cs) = cs := by
  induction cs with
  | nil => simp [escapedMarkup, decodeEntities]
  | cons c cs ih =>
    rw [escapedMarkup_cons]
    cases found : entity? c with
    | some name =>
      have member := (entity_eq_some_iff c name).1 found
      rw [Option.getD_some, decodeEntities_entity member, ih]
    | none =>
      have plain := (ne_ampersand_of_entity_eq_none found).1
      rw [Option.getD_none, List.singleton_append, decodeEntities_plain plain, ih]

/-! The characters of an escaped text. -/

theorem escapedMarkup_not_markup (cs : List Char) :
    ∀ c ∈ escapedMarkup cs, isMarkup c = false := by
  induction cs with
  | nil => simp [escapedMarkup]
  | cons d cs ih =>
    intro c member
    rw [escapedMarkup_cons, List.mem_append] at member
    rcases member with here | later
    · cases found : entity? d with
      | some name =>
        obtain ⟨-, -, -, clean⟩ := entityNames_shape ((entity_eq_some_iff d name).1 found)
        rw [found, Option.getD_some] at here
        simpa using List.all_eq_true.1 clean c here
      | none =>
        rw [found, Option.getD_none, List.mem_singleton] at here
        rw [here]
        exact (ne_ampersand_of_entity_eq_none found).2
    · exact ih c later

theorem ampersand_begins_entity {cs before after : List Char}
    (place : escapedMarkup cs = before ++ '&' :: after) :
    ∃ e ∈ entityNames, e.1 <+: '&' :: after := by
  induction cs generalizing before with
  | nil => simp [escapedMarkup] at place
  | cons c cs ih =>
    rw [escapedMarkup_cons, List.append_eq_append_iff] at place
    rcases place with ⟨later, -, rest⟩ | ⟨inside, here, rest⟩
    · exact ih rest
    · cases inside with
      | nil => exact @ih [] rest.symm
      | cons d inside =>
        obtain ⟨rfl, behind⟩ := List.cons.inj rest
        cases found : entity? c with
        | some name =>
          have member := (entity_eq_some_iff c name).1 found
          obtain ⟨more, shape, single, -⟩ := entityNames_shape member
          rw [found, Option.getD_some] at here
          -- The ampersand cannot stand behind the one that the entity begins with.
          cases before with
          | nil => exact ⟨(name, c), member, here ▸ ⟨_, by rw [behind]; rfl⟩⟩
          | cons b before =>
            rw [shape] at here
            have again := (List.cons.inj here).2
            exact absurd (again ▸ by simp) single
        | none =>
          have plain := (ne_ampersand_of_entity_eq_none found).1
          rw [found, Option.getD_none] at here
          have same : '&' ∈ [c] := here ▸ by simp
          exact absurd (List.mem_singleton.1 same).symm plain

theorem escape_result {v : Value} {s : String} (scalar : v.scalarText? = some s)
    (args : List Value) (limit : Option Nat) :
    ((ModifierName.known .escape).apply v args limit).value =
      .str (cutWithin limit (String.ofList (escapedMarkup s.toList))) := by
  rw [apply_known, Modifier.transform_stopping rfl, Modifier.wholeText?, scalar]
  rfl

theorem mem_of_mem_cutWithin {limit : Option Nat} {text : String} {c : Char}
    (member : c ∈ (cutWithin limit text).toList) : c ∈ text.toList := by
  cases limit with
  | none => exact member
  | some limit =>
    rw [cutWithin, toList_cutString] at member
    exact (isPrefix_cut limit text.toList).subset member

/-- Whatever the limit, the escaped text of a scalar holds no character of markup. Without a limit
its ampersands are those of entities, reading these gives back the text of the scalar, and scalars
whose texts are escaped alike have the same text. -/
theorem escaped_text_safe_lossless (v : Value) (s : String) (scalar : v.scalarText? = some s)
    (args : List Value) :
    let result (v : Value) (limit : Option Nat) :=
      ((ModifierName.known .escape).apply v args limit).value
    (∀ limit, ∃ t, result v limit = .str t ∧ ∀ c ∈ t.toList, c ∉ ['<', '>', '"', '\'']) ∧
    (∃ t, result v none = .str t ∧
      (∀ before after, t.toList = before ++ '&' :: after →
        ∃ e ∈ entityNames, e.1 <+: '&' :: after) ∧
      decodeEntities t.toList = s.toList) ∧
    ∀ w r, w.scalarText? = some r → result v none = result w none → s = r := by
  intro result
  have shape {v : Value} {s : String} (scalar : v.scalarText? = some s) (limit : Option Nat) :
      result v limit = .str (cutWithin limit (String.ofList (escapedMarkup s.toList))) :=
    escape_result scalar args limit
  refine ⟨fun limit => ⟨_, shape scalar limit, fun c member => ?_⟩,
    ⟨_, shape scalar none, fun before after place => ?_, ?_⟩, fun w r other same => ?_⟩
  · have kept := mem_of_mem_cutWithin member
    rw [String.toList_ofList] at kept
    have clean := escapedMarkup_not_markup s.toList c kept
    simpa [isMarkup] using clean
  · rw [cutWithin, String.toList_ofList] at place
    exact ampersand_begins_entity place
  · rw [cutWithin, String.toList_ofList, decodeEntities_escapedMarkup]
  · rw [shape scalar, shape other] at same
    have texts : escapedMarkup s.toList = escapedMarkup r.toList :=
      String.ofList_injective (Value.str.inj same)
    have decoded := congrArg decodeEntities texts
    rw [decodeEntities_escapedMarkup, decodeEntities_escapedMarkup] at decoded
    exact String.toList_inj.1 decoded

/-- A text that holds an entity already is not taken for what the entity stands for, and a cut may
fall into an entity. -/
theorem escaped_text_safe_lossless_entity :
    let result (limit : Option Nat) :=
      ((ModifierName.known .escape).apply (.str "é<&lt;") [] limit).value
    (Value.str "é<&lt;").scalarText? = some "é<&lt;" ∧
      (∃ t, result (some 4) = .str t ∧ t = "é&l" ∧
        ∀ c ∈ t.toList, c ∉ ['<', '>', '"', '\'']) ∧
      ∃ t, result none = .str t ∧ t = "é&lt;&amp;lt;" ∧ decodeEntities t.toList = "é<&lt;".toList := by
  intro result
  obtain ⟨limited, ⟨t, whole, -, decoded⟩, -⟩ :=
    escaped_text_safe_lossless (.str "é<&lt;") "é<&lt;" rfl []
  obtain ⟨u, cutText, clean⟩ := limited (some 4)
  have first : u = "é&l" := by
    have shown : result (some 4) = .str "é&l" := by rfl
    exact Value.str.inj (cutText.symm.trans shown)
  have second : t = "é&lt;&amp;lt;" := by
    have shown : result none = .str "é&lt;&amp;lt;" := by rfl
    exact Value.str.inj (whole.symm.trans shown)
  exact ⟨rfl, ⟨u, cutText, first, clean⟩, ⟨t, whole, second, decoded⟩⟩

end TitleTemplate
