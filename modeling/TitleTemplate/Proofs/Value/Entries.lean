import Mathlib.Data.String.Basic
import TitleTemplate.Value.Basic

/-!
Maps as lists of entries. What is put together from any entries has its keys in ascending order, and
a list of entries with ascending keys is its own map. It makes no difference whether the values are
changed before the entries are put together or after.
-/
namespace TitleTemplate.Entries
variable {α β : Type}

def Ascending (entries : List (String × α)) : Prop := entries.Pairwise fun a b => a.1 < b.1

instance (entries : List (String × α)) : Decidable (Ascending entries) :=
  inferInstanceAs (Decidable (entries.Pairwise fun a b => a.1 < b.1))

def mapValues (f : α → β) (entries : List (String × α)) : List (String × β) :=
  entries.map fun e => (e.1, f e.2)

theorem mem_insert {key : String} {value : α} {entries : List (String × α)} {e : String × α}
    (member : e ∈ insert key value entries) : e = (key, value) ∨ e ∈ entries := by
  induction entries with
  | nil => exact .inl (List.mem_singleton.1 member)
  | cons first rest ih =>
    rw [insert] at member
    split_ifs at member
    · exact List.mem_cons.1 member
    · exact (List.mem_cons.1 member).imp_right (List.mem_cons_of_mem first)
    · rcases List.mem_cons.1 member with rfl | later
      · exact .inr List.mem_cons_self
      · exact (ih later).imp_right (List.mem_cons_of_mem first)

theorem insert_ascending {entries : List (String × α)} (ascending : Ascending entries)
    (key : String) (value : α) : Ascending (insert key value entries) := by
  induction entries with
  | nil => exact List.pairwise_singleton _ _
  | cons first rest ih =>
    obtain ⟨least, later⟩ := List.pairwise_cons.1 ascending
    rw [insert]
    split_ifs with below same
    · refine List.pairwise_cons.2 ⟨fun e member => ?_, ascending⟩
      rcases List.mem_cons.1 member with rfl | inRest
      · exact below
      · exact below.trans (least e inRest)
    · exact List.pairwise_cons.2 ⟨fun e member => same ▸ least e member, later⟩
    · refine List.pairwise_cons.2 ⟨fun e member => ?_, ih later⟩
      rcases mem_insert member with rfl | inRest
      · exact lt_of_le_of_ne (not_lt.1 below) (Ne.symm same)
      · exact least e inRest

theorem ofList_ascending (entries : List (String × α)) : Ascending (ofList entries) := by
  have grown : ∀ before : List (String × α), Ascending before →
      Ascending (entries.foldl (fun m e => insert e.1 e.2 m) before) := by
    induction entries with
    | nil => exact fun _ ascending => ascending
    | cons e rest ih => exact fun before ascending => ih _ (insert_ascending ascending e.1 e.2)
  exact grown [] List.Pairwise.nil

theorem mem_of_mem_ofList {entries : List (String × α)} {e : String × α}
    (member : e ∈ ofList entries) : e ∈ entries := by
  have grown : ∀ before : List (String × α),
      e ∈ entries.foldl (fun m d => insert d.1 d.2 m) before → e ∈ before ∨ e ∈ entries := by
    clear member
    induction entries with
    | nil => exact fun _ found => .inl found
    | cons d rest ih =>
      intro before found
      rcases ih _ found with inserted | later
      · rcases mem_insert inserted with rfl | earlier
        · exact .inr List.mem_cons_self
        · exact .inl earlier
      · exact .inr (List.mem_cons_of_mem d later)
  exact (grown [] member).resolve_left List.not_mem_nil

theorem insert_last {key : String} {entries : List (String × α)}
    (above : ∀ e ∈ entries, e.1 < key) (value : α) :
    insert key value entries = entries ++ [(key, value)] := by
  induction entries with
  | nil => rfl
  | cons first rest ih =>
    have least := above first List.mem_cons_self
    have later := ih fun e member => above e (List.mem_cons_of_mem first member)
    rw [insert, if_neg (not_lt.2 least.le), if_neg (ne_of_gt least), later, List.cons_append]

theorem ofList_of_ascending {entries : List (String × α)} (ascending : Ascending entries) :
    ofList entries = entries := by
  have grown : ∀ before : List (String × α), Ascending (before ++ entries) →
      entries.foldl (fun m e => insert e.1 e.2 m) before = before ++ entries := by
    clear ascending
    induction entries with
    | nil => simp
    | cons e rest ih =>
      intro before ascending
      have above : ∀ d ∈ before, d.1 < e.1 := fun d member =>
        (List.pairwise_append.1 ascending).2.2 d member e List.mem_cons_self
      rw [List.foldl_cons, insert_last above, ih]
      · simp
      · simpa using ascending
  exact grown [] ascending

theorem insert_mapValues (f : α → β) (key : String) (value : α) (entries : List (String × α)) :
    insert key (f value) (mapValues f entries) = mapValues f (insert key value entries) := by
  induction entries with
  | nil => rfl
  | cons first rest ih =>
    have head : mapValues f (first :: rest) = (first.1, f first.2) :: mapValues f rest := rfl
    rw [head, insert, insert, ih]
    split_ifs <;> rfl

theorem ofList_mapValues (f : α → β) (entries : List (String × α)) :
    ofList (mapValues f entries) = mapValues f (ofList entries) := by
  have grown : ∀ before : List (String × α),
      (mapValues f entries).foldl (fun m e => insert e.1 e.2 m) (mapValues f before) =
        mapValues f (entries.foldl (fun m e => insert e.1 e.2 m) before) := by
    induction entries with
    | nil => exact fun _ => rfl
    | cons e rest ih =>
      intro before
      rw [List.foldl_cons, ← ih, ← insert_mapValues]
      rfl
  exact grown []

/-! Looking up what was put. -/

theorem find_insert_self (key : String) (value : α) (entries : List (String × α)) :
    find? key (insert key value entries) = some value := by
  induction entries with
  | nil => simp [insert, find?]
  | cons first rest ih =>
    rw [insert]
    split_ifs with below same
    · simp [find?]
    · simp [find?]
    · rw [find?, if_neg (Ne.symm same), ih]

theorem find_insert_of_ne {key other : String} (apart : other ≠ key) (value : α)
    (entries : List (String × α)) :
    find? other (insert key value entries) = find? other entries := by
  induction entries with
  | nil => simp [insert, find?, Ne.symm apart]
  | cons first rest ih =>
    rw [insert]
    split_ifs with below same
    · rw [find?, if_neg (Ne.symm apart)]
    · rw [find?, find?, if_neg (Ne.symm apart), if_neg (same ▸ Ne.symm apart)]
    · rw [find?, find?, ih]

theorem find_mapValues (f : α → β) (key : String) (entries : List (String × α)) :
    find? key (mapValues f entries) = (find? key entries).map f := by
  induction entries with
  | nil => rfl
  | cons first rest ih =>
    have head : mapValues f (first :: rest) = (first.1, f first.2) :: mapValues f rest := rfl
    rw [head, find?, find?, ih]
    split <;> rfl

theorem mem_of_find {key : String} {value : α} {entries : List (String × α)}
    (found : find? key entries = some value) : ∃ k, (k, value) ∈ entries := by
  induction entries with
  | nil => cases found
  | cons first rest ih =>
    rw [find?] at found
    split at found
    · exact ⟨first.1, by rw [← Option.some.inj found]; exact List.mem_cons_self⟩
    · obtain ⟨k, member⟩ := ih found
      exact ⟨k, List.mem_cons_of_mem first member⟩

/-! Putting twice. -/

theorem insert_insert (key : String) (value again : α) (entries : List (String × α)) :
    insert key again (insert key value entries) = insert key again entries := by
  have itself : ¬ key < key := lt_irrefl key
  induction entries with
  | nil => simp [insert]
  | cons first rest ih =>
    rw [insert, insert]
    split_ifs with below same
    · rw [insert, if_neg itself, if_pos rfl]
    · rw [insert, if_neg itself, if_pos rfl]
    · rw [insert, if_neg below, if_neg same, ih]

theorem insert_comm {j k : String} (apart : j ≠ k) (v w : α) (entries : List (String × α)) :
    insert j v (insert k w entries) = insert k w (insert j v entries) := by
  -- The keys play the same part, so the smaller one may be taken to be the first.
  wlog less : j < k generalizing j k v w
  · exact (this (Ne.symm apart) w v (lt_of_le_of_ne (not_lt.1 less) (Ne.symm apart))).symm
  have after : ¬ k < j := less.asymm
  induction entries with
  | nil => simp only [insert, if_pos less, if_neg after, if_neg (Ne.symm apart)]
  | cons first rest ih =>
    rcases lt_trichotomy k first.1 with below | same | above
    · have below' : j < first.1 := less.trans below
      simp only [insert, if_pos less, if_neg after, if_neg (Ne.symm apart), if_pos below,
        if_pos below']
    · have below' : j < first.1 := same ▸ less
      have here : ¬ k < first.1 := same ▸ lt_irrefl k
      simp only [insert, if_pos less, if_neg after, if_neg (Ne.symm apart), if_neg here,
        if_pos same, if_pos below']
    · have here : ¬ k < first.1 := above.asymm
      have other : k ≠ first.1 := above.ne'
      rcases lt_trichotomy j first.1 with before | equal | behind
      · simp only [insert, if_neg after, if_neg (Ne.symm apart), if_neg here, if_neg other,
          if_pos before]
      · have there : ¬ j < first.1 := equal ▸ lt_irrefl j
        simp only [insert, if_neg here, if_neg other, if_neg there, if_pos equal,
          if_neg after, if_neg (Ne.symm apart)]
      · simp only [insert, if_neg here, if_neg other, if_neg behind.asymm, if_neg behind.ne', ih]

theorem mapValues_ascending {entries : List (String × α)} (f : α → β) :
    Ascending (mapValues f entries) ↔ Ascending entries :=
  List.pairwise_map

end TitleTemplate.Entries
