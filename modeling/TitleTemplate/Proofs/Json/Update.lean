import TitleTemplate.Command.Define
import TitleTemplate.Proofs.Text.Division
import TitleTemplate.Proofs.Value.Passage

/-!
Setting a value at a path of keys. What was set is found again, all that does not lie on the path
stays, the later of two values under one path wins, and values under paths that part may be set in
any order. A path with an empty key is not followed beyond it: the objects before it are made, and
nothing else changes.
-/
namespace TitleTemplate
namespace Json

def keyPath (key : String) : List String := (splitAtChar '.' key.toList).map String.ofList

/-- What stands at the end of a path of keys, if there is something. -/
def reach? : List String → Json → Option Json
  | [], j => some j
  | key :: keys, j => (Entries.find? key (entriesOf (some j))).bind (reach? keys)

/-- What an update along a path puts under the first of its keys, in place of what was there. -/
def slot (value : Json) (keys : List String) (old : Option Json) : Json :=
  if keys = [] then value else .object (putAt value keys (entriesOf old)).2

theorem keyPath_ne_nil (key : String) : keyPath key ≠ [] := by
  intro none
  exact splitAtChar_ne_nil _ _ (List.map_eq_nil_iff.1 none)

theorem entriesOf_object (entries : List (String × Json)) :
    entriesOf (some (.object entries)) = entries := rfl

theorem reach_object (key : String) (keys : List String) (entries : List (String × Json)) :
    reach? (key :: keys) (.object entries) = (Entries.find? key entries).bind (reach? keys) := rfl

theorem reach_entriesOf {path : List String} (some : path ≠ []) (old : Option Json) :
    reach? path (.object (entriesOf old)) = old.bind (reach? path) := by
  cases path with
  | nil => exact absurd rfl some
  | cons key keys => cases old <;> rfl

theorem reach_append (p q : List String) (j : Json) :
    reach? (p ++ q) j = (reach? p j).bind (reach? q) := by
  induction p generalizing j with
  | nil => rfl
  | cons key keys ih =>
    rw [List.cons_append, reach?, reach?, Option.bind_assoc]
    exact congrArg _ (funext ih)

theorem entriesOf_reach (path : List String) (old : Option Json) :
    entriesOf (reach? path (.object (entriesOf old))) = entriesOf (old.bind (reach? path)) := by
  cases path with
  | nil => cases old <;> rfl
  | cons key keys => rw [reach_entriesOf (List.cons_ne_nil key keys)]

/-! One step of an update. -/

theorem putAt_unnamed (value : Json) (keys : List String) (entries : List (String × Json)) :
    putAt value ("" :: keys) entries = (false, entries) := by
  rw [putAt, if_pos rfl]

theorem putAt_named {key : String} (named : key ≠ "") (value : Json) (keys : List String)
    (entries : List (String × Json)) :
    (putAt value (key :: keys) entries).2 =
      Entries.insert key (slot value keys (Entries.find? key entries)) entries := by
  rw [putAt, if_neg named, slot]
  split_ifs <;> rfl

theorem putAt_done_named {key : String} (named : key ≠ "") (value : Json) (keys : List String)
    (entries : List (String × Json)) :
    (putAt value (key :: keys) entries).1 = true ↔
      keys = [] ∨ (putAt value keys (entriesOf (Entries.find? key entries))).1 = true := by
  rw [putAt, if_neg named]
  split_ifs with last
  · simp [last]
  · simp [last]

theorem putAt_done_iff (value : Json) {path : List String} (some : path ≠ [])
    (entries : List (String × Json)) :
    (putAt value path entries).1 = true ↔ ∀ s ∈ path, s ≠ "" := by
  induction path generalizing entries with
  | nil => exact absurd rfl some
  | cons key keys ih =>
    by_cases named : key = ""
    · simp [named, putAt_unnamed]
    · rw [putAt_done_named named, List.forall_mem_cons]
      by_cases last : keys = []
      · simp [last, named]
      · rw [ih last]
        simp [last, named]

/-! What is found after an update. -/

theorem reach_putAt {path : List String} (some : path ≠ []) (named : ∀ s ∈ path, s ≠ "")
    (value : Json) (entries : List (String × Json)) :
    reach? path (.object (putAt value path entries).2) = .some value := by
  induction path generalizing entries with
  | nil => exact absurd rfl some
  | cons key keys ih =>
    obtain ⟨here, later⟩ := List.forall_mem_cons.1 named
    rw [putAt_named here, reach_object, Entries.find_insert_self, Option.bind_some, slot]
    split
    · rename_i last
      rw [last]
      rfl
    · rename_i more
      exact ih more later _

/-- Every object on the way keeps what it holds under all keys but the next, and what was no object
has become one that holds nothing else. -/
theorem reach_putAt_front {front : List String} (named : ∀ s ∈ front, s ≠ "") (value : Json)
    (next : String) (back : List String) (entries : List (String × Json)) :
    ∃ inner, reach? front (.object (putAt value (front ++ next :: back) entries).2) =
        some (.object inner) ∧
      ∀ other, other ≠ next →
        Entries.find? other inner =
          Entries.find? other (entriesOf (reach? front (.object entries))) := by
  induction front generalizing entries with
  | nil =>
    refine ⟨_, rfl, fun other apart => ?_⟩
    rw [List.nil_append]
    by_cases unnamed : next = ""
    · rw [unnamed, putAt_unnamed]
      rfl
    · rw [putAt_named unnamed, Entries.find_insert_of_ne apart]
      rfl
  | cons key keys ih =>
    obtain ⟨here, later⟩ := List.forall_mem_cons.1 named
    have more : keys ++ next :: back ≠ [] := by simp
    obtain ⟨inner, found, kept⟩ := ih later (entriesOf (Entries.find? key entries))
    refine ⟨inner, ?_, fun other apart => ?_⟩
    · rw [List.cons_append, putAt_named here, reach_object, Entries.find_insert_self,
        Option.bind_some, slot, if_neg more, found]
    · rw [kept other apart, entriesOf_reach, reach_object]

theorem reach_putAt_broken {front : List String} (named : ∀ s ∈ front, s ≠ "") (value : Json)
    (back : List String) {path : List String} (apart : ¬ path <+: front)
    (entries : List (String × Json)) :
    reach? path (.object (putAt value (front ++ "" :: back) entries).2) =
      reach? path (.object entries) := by
  induction front generalizing path entries with
  | nil => rw [List.nil_append, putAt_unnamed]
  | cons key keys ih =>
    obtain ⟨here, later⟩ := List.forall_mem_cons.1 named
    have more : keys ++ "" :: back ≠ [] := by simp
    cases path with
    | nil => exact absurd List.nil_prefix apart
    | cons first rest =>
      rw [List.cons_append, putAt_named here, reach_object, reach_object]
      by_cases same : first = key
      · subst same
        have deeper : ¬ rest <+: keys := fun begins =>
          apart ((List.prefix_cons_inj first).2 begins)
        have some : rest ≠ [] := by
          rintro rfl
          exact deeper List.nil_prefix
        rw [Entries.find_insert_self, Option.bind_some, slot, if_neg more, ih later deeper,
          reach_entriesOf some]
      · rw [Entries.find_insert_of_ne same]

/-! Two updates. -/

theorem putAt_putAt (value again : Json) (path : List String) (entries : List (String × Json)) :
    putAt again path (putAt value path entries).2 = putAt again path entries := by
  induction path generalizing entries with
  | nil => rfl
  | cons key keys ih =>
    by_cases named : key = ""
    · simp only [named, putAt_unnamed]
    · have inner (old : Option Json) (more : keys ≠ []) :
          putAt again keys (entriesOf (some (slot value keys old))) =
            putAt again keys (entriesOf old) := by
        rw [slot, if_neg more]
        exact ih (entriesOf old)
      rw [putAt_named named, putAt, putAt, if_neg named, if_neg named, Entries.find_insert_self]
      split
      · rw [Entries.insert_insert]
      · rename_i more
        simp only [inner _ more, Entries.insert_insert]

theorem putAt_comm {p q : List String} (apart : ¬ p <+: q) (apart' : ¬ q <+: p)
    (value other : Json) (entries : List (String × Json)) :
    (putAt other q (putAt value p entries).2).2 = (putAt value p (putAt other q entries).2).2 := by
  induction p generalizing q entries with
  | nil => exact absurd List.nil_prefix apart
  | cons j js ih =>
    cases q with
    | nil => exact absurd List.nil_prefix apart'
    | cons k ks =>
      by_cases first : j = ""
      · rw [first, putAt_unnamed, putAt_unnamed]
      by_cases second : k = ""
      · rw [second, putAt_unnamed, putAt_unnamed]
      rw [putAt_named first, putAt_named second, putAt_named first, putAt_named second]
      by_cases same : j = k
      · subst same
        rw [List.prefix_cons_inj] at apart apart'
        have more : js ≠ [] := by
          rintro rfl
          exact apart List.nil_prefix
        have more' : ks ≠ [] := by
          rintro rfl
          exact apart' List.nil_prefix
        have inner := ih apart apart' (entriesOf (Entries.find? j entries))
        simp only [Entries.find_insert_self, Entries.insert_insert, slot, if_neg more, if_neg more',
          entriesOf_object, inner]
      · rw [Entries.find_insert_of_ne (Ne.symm same), Entries.find_insert_of_ne same,
          Entries.insert_comm same]

/-! Trees and their values. -/

theorem treeEntries_eq (entries : List (String × Json)) :
    treeEntries entries = Entries.mapValues tree entries := by
  induction entries with
  | nil => rfl
  | cons e es ih => rw [treeEntries, ih, Entries.mapValues, Entries.mapValues, List.map_cons]

theorem tree_object_iff (entries : List (String × Json)) :
    (object entries).tree = .object entries ↔
      Entries.Ascending entries ∧ ∀ e ∈ entries, e.2.tree = e.2 := by
  rw [tree, treeEntries_eq, Json.object.injEq]
  have fixed : Entries.mapValues tree entries = entries ↔ ∀ e ∈ entries, e.2.tree = e.2 := by
    induction entries with
    | nil => simp [Entries.mapValues]
    | cons e es ih =>
      have head : Entries.mapValues tree (e :: es) =
          (e.1, e.2.tree) :: Entries.mapValues tree es := rfl
      rw [head, List.cons.injEq, ih, List.forall_mem_cons, Prod.ext_iff]
      simp only [true_and]
  constructor
  · intro same
    have ascending : Entries.Ascending entries := same ▸ Entries.ofList_ascending _
    rw [Entries.ofList_of_ascending ((Entries.mapValues_ascending tree).2 ascending)] at same
    exact ⟨ascending, fixed.1 same⟩
  · rintro ⟨ascending, inside⟩
    rw [Entries.ofList_of_ascending ((Entries.mapValues_ascending tree).2 ascending)]
    exact fixed.2 inside

theorem tree_entriesOf {old : Option Json} (inside : ∀ j, old = some j → j.tree = j) :
    (object (entriesOf old)).tree = .object (entriesOf old) := by
  cases old with
  | none => rfl
  | some j =>
    cases j with
    | object entries => exact inside _ rfl
    | _ => rfl

theorem tree_putAt {value : Json} (valued : value.tree = value) (path : List String)
    {entries : List (String × Json)} (well : (object entries).tree = .object entries) :
    (object (putAt value path entries).2).tree = .object (putAt value path entries).2 := by
  induction path generalizing entries with
  | nil => exact well
  | cons key keys ih =>
    by_cases named : key = ""
    · rw [named, putAt_unnamed]
      exact well
    · obtain ⟨ascending, inside⟩ := (tree_object_iff entries).1 well
      have slotted : (slot value keys (Entries.find? key entries)).tree =
          slot value keys (Entries.find? key entries) := by
        rw [slot]
        split
        · exact valued
        · refine ih (tree_entriesOf fun j found => ?_)
          obtain ⟨k, member⟩ := Entries.mem_of_find found
          exact inside (k, j) member
      rw [putAt_named named, tree_object_iff]
      refine ⟨Entries.insert_ascending ascending key _, fun e member => ?_⟩
      rcases Entries.mem_insert member with rfl | earlier
      · exact slotted
      · exact inside e earlier

theorem lookup_of_reach {path : List String} {j found : Json} (reached : reach? path j = some found) :
    j.toValue.lookup path = found.toValue := by
  induction path generalizing j with
  | nil =>
    rw [← Option.some.inj reached]
    rfl
  | cons key keys ih =>
    cases j with
    | object entries =>
      rw [reach_object, Option.bind_eq_some_iff] at reached
      obtain ⟨next, here, later⟩ := reached
      have child : (object entries).toValue.child key = next.toValue := by
        rw [toValue, toValueEntries_eq, Value.child, Entries.find_mapValues, here]
        rfl
      have step : (object entries).toValue.lookup (key :: keys) =
          ((object entries).toValue.child key).lookup keys := rfl
      rw [step, child, ih later]
    | null | bool _ | number _ | str _ | array _ => cases reached

/-- Setting a value at a dotted path is done exactly if none of its keys is empty. Then the value is
found there, also by way of the value of the data; every object on the way has kept what it held
under other keys, and what was no object holds nothing else; another value at the same path leaves no
trace of the first, and values at two paths of which neither begins with the other may be set in any
order. With an empty key on the path, the slots before the first one hold objects, and nothing is
found anywhere else that was not there. The data stays a tree in either case. -/
theorem putAt_lawful (key : String) (value : Json) (entries : List (String × Json)) :
    let path := keyPath key
    let after := (putAt value path entries).2
    ((putAt value path entries).1 = true ↔ ∀ s ∈ path, s ≠ "") ∧
    ((∀ s ∈ path, s ≠ "") →
      reach? path (.object after) = some value ∧
      (object after).toValue.lookup path = value.toValue ∧
      (∀ front next back, path = front ++ next :: back →
        ∃ inner, reach? front (.object after) = some (.object inner) ∧
          ∀ other, other ≠ next →
            Entries.find? other inner =
              Entries.find? other (entriesOf (reach? front (.object entries)))) ∧
      (∀ again, putAt again path after = putAt again path entries) ∧
      ∀ otherKey otherValue,
        ¬ path <+: keyPath otherKey → ¬ keyPath otherKey <+: path →
          (putAt otherValue (keyPath otherKey) after).2 =
            (putAt value path (putAt otherValue (keyPath otherKey) entries).2).2) ∧
    (∀ front back, path = front ++ "" :: back → (∀ s ∈ front, s ≠ "") →
      (∀ slots rest, front = slots ++ rest →
        ∃ inner, reach? slots (.object after) = some (.object inner)) ∧
      ∀ q, ¬ q <+: front → reach? q (.object after) = reach? q (.object entries)) ∧
    (value.tree = value → (object entries).tree = .object entries →
      (object after).tree = .object after) := by
  intro path after
  refine ⟨putAt_done_iff value (keyPath_ne_nil key) entries, fun named => ?_,
    fun front back divided named => ⟨fun slots rest part => ?_, fun q apart => ?_⟩,
    fun valued well => tree_putAt valued path well⟩
  · have found := reach_putAt (keyPath_ne_nil key) named value entries
    refine ⟨found, lookup_of_reach found, fun front next back divided => ?_,
      fun again => putAt_putAt value again path entries,
      fun otherKey otherValue apart apart' => putAt_comm apart apart' value otherValue entries⟩
    have before : ∀ s ∈ front, s ≠ "" := fun s member =>
      named s (divided ▸ List.mem_append_left _ member)
    have kept := reach_putAt_front before value next back entries
    rwa [← divided] at kept
  · have before : ∀ s ∈ slots, s ≠ "" := fun s member =>
      named s (part ▸ List.mem_append_left _ member)
    -- The key behind these slots is another slot or the empty one.
    obtain ⟨next, more, shape⟩ : ∃ next more, path = slots ++ next :: more := by
      rw [divided, part, List.append_assoc]
      cases rest with
      | nil => exact ⟨"", back, rfl⟩
      | cons next rest => exact ⟨next, rest ++ "" :: back, rfl⟩
    obtain ⟨inner, reached, -⟩ := reach_putAt_front before value next more entries
    rw [← shape] at reached
    exact ⟨inner, reached⟩
  · have same := reach_putAt_broken named value back apart entries
    rwa [← divided] at same

/-- A value set in an object that is there already, and a path that breaks off. -/
theorem putAt_lawful_nested :
    let entries : List (String × Json) :=
      [("a", .object [("b", .null), ("c", .bool true)]), ("d", .str "y")]
    let after := (putAt (.str "x") (keyPath "a.b") entries).2
    let broken := (putAt (.str "x") (keyPath "d..b") entries).2
    keyPath "a.b" = ["a"] ++ "b" :: [] ∧ (putAt (.str "x") (keyPath "a.b") entries).1 = true ∧
      reach? (keyPath "a.b") (.object after) = some (.str "x") ∧
      (∃ inner, reach? ["a"] (.object after) = some (.object inner) ∧
        Entries.find? "c" inner = some (.bool true)) ∧
      keyPath "d..b" = ["d"] ++ "" :: ["b"] ∧
      (∃ inner, reach? ["d"] (.object broken) = some (.object inner)) ∧
      reach? ["a", "c"] (.object broken) = some (.bool true) := by
  intro entries after broken
  have path : keyPath "a.b" = ["a"] ++ "b" :: [] := by decide
  have brokenPath : keyPath "d..b" = ["d"] ++ "" :: ["b"] := by decide
  obtain ⟨done, found, -, -⟩ := putAt_lawful "a.b" (.str "x") entries
  have named : ∀ s ∈ keyPath "a.b", s ≠ "" := by decide
  obtain ⟨reached, -, kept, -, -⟩ := found named
  obtain ⟨inner, object, others⟩ := kept ["a"] "b" [] path
  obtain ⟨-, -, missed, -⟩ := putAt_lawful "d..b" (.str "x") entries
  obtain ⟨slots, same⟩ := missed ["d"] ["b"] brokenPath (by decide)
  exact ⟨path, done.2 named, reached, ⟨inner, object, others "c" (by decide)⟩, brokenPath,
    slots ["d"] [] rfl, same ["a", "c"] (by decide)⟩

end Json
end TitleTemplate
