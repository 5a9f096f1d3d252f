import Mathlib.Data.List.Basic
import Mathlib.Data.List.Induction
import SplitTest.Assoc

/-! Looking up what was put into an association list. -/
namespace SplitTest.Assoc

variable {α β : Type}

theorem exists_mem_of_findBy? {same : α → Bool} {v : β} {entries : List (α × β)}
    (h : findBy? same entries = some v) : ∃ k, (k, v) ∈ entries := by
  induction entries with
  | nil => cases h
  | cons entry rest ih =>
    unfold findBy? at h
    split at h
    · obtain rfl := Option.some.inj h
      exact ⟨entry.1, by simp⟩
    · obtain ⟨k, hk⟩ := ih h
      exact ⟨k, List.mem_cons_of_mem _ hk⟩

theorem keys_insertBy (same : α → α → Bool) (key : α) (value : β) (entries : List (α × β)) :
    (insertBy same key value entries).map (·.1) =
      if (entries.map (·.1)).any (same · key) then entries.map (·.1)
      else entries.map (·.1) ++ [key] := by
  induction entries with
  | nil => rfl
  | cons entry rest ih =>
    obtain ⟨k, v⟩ := entry
    by_cases hk : same k key
    · simp [insertBy, hk]
    · simp only [insertBy, hk, Bool.false_eq_true, if_false, List.map_cons, ih, List.any_cons,
        Bool.false_or]
      split_ifs <;> rfl

/-- No key is the same as one before it. -/
def NodupBy (same : α → α → Bool) (entries : List (α × β)) : Prop :=
  (entries.map (·.1)).Pairwise fun a b => same a b = false

theorem NodupBy.insertBy {same : α → α → Bool} {entries : List (α × β)} (h : NodupBy same entries)
    (key : α) (value : β) : NodupBy same (insertBy same key value entries) := by
  unfold NodupBy at h ⊢
  rw [keys_insertBy]
  split_ifs with hsame
  · exact h
  · refine List.pairwise_append.mpr ⟨h, List.pairwise_singleton _ _, fun a ha b hb => ?_⟩
    obtain rfl := List.mem_singleton.mp hb
    rw [List.any_eq_true, not_exists] at hsame
    simpa [ha] using hsame a

theorem nodupBy_ofListBy (same : α → α → Bool) (entries : List (α × β)) :
    NodupBy same (ofListBy same entries) :=
  List.foldlRecOn (motive := NodupBy same) entries _ List.Pairwise.nil
    fun _ h entry _ => h.insertBy entry.1 entry.2

theorem mem_keys_ofListBy {same : α → α → Bool} {entries : List (α × β)} {key : α}
    (h : key ∈ (ofListBy same entries).map (·.1)) : key ∈ entries.map (·.1) := by
  refine List.foldlRecOn (motive := fun done : List (α × β) =>
    ∀ k ∈ done.map (·.1), k ∈ entries.map (·.1)) entries _ (by simp) ?_ key h
  intro done hdone entry hentry k hk
  rw [keys_insertBy] at hk
  split_ifs at hk with hsame
  · exact hdone k hk
  · rcases List.mem_append.mp hk with hk | hk
    · exact hdone k hk
    · exact List.mem_singleton.mp hk ▸ List.mem_map_of_mem hentry

variable [BEq α]

@[simp] theorem find?_nil (key : α) : find? key ([] : List (α × β)) = none := rfl

theorem find?_cons (key k : α) (v : β) (rest : List (α × β)) :
    find? key ((k, v) :: rest) = if k == key then some v else find? key rest := rfl

theorem find?_eq_map_find? (key : α) (entries : List (α × β)) :
    find? key entries = (entries.find? (·.1 == key)).map (·.2) := by
  induction entries with
  | nil => rfl
  | cons entry rest ih =>
    obtain ⟨k, v⟩ := entry
    rw [find?_cons, List.find?_cons, ih]
    cases k == key <;> rfl

theorem find?_append (key : α) (entries others : List (α × β)) :
    find? key (entries ++ others) = (find? key entries).or (find? key others) := by
  induction entries with
  | nil => rfl
  | cons entry rest ih =>
    rw [List.cons_append, find?_cons, find?_cons]
    split
    · rfl
    · exact ih

theorem forall_mem_insert {P : β → Prop} {key : α} {value : β} {entries : List (α × β)}
    (hv : P value) (h : ∀ e ∈ entries, P e.2) : ∀ e ∈ insert key value entries, P e.2 := by
  unfold insert
  induction entries with
  | nil => simpa [insertBy] using hv
  | cons entry rest ih =>
    obtain ⟨k, v⟩ := entry
    rw [List.forall_mem_cons] at h
    unfold insertBy
    split
    · exact List.forall_mem_cons.mpr ⟨hv, h.2⟩
    · exact List.forall_mem_cons.mpr ⟨h.1, ih h.2⟩

/-- Values of a list that is made of entries are values of those entries. -/
theorem forall_mem_ofList {P : β → Prop} {entries : List (α × β)} (h : ∀ e ∈ entries, P e.2) :
    ∀ e ∈ ofList entries, P e.2 := by
  unfold ofList ofListBy
  have hnone : ∀ e ∈ ([] : List (α × β)), P e.2 := by simp
  exact List.foldlRecOn (motive := fun done : List (α × β) => ∀ e ∈ done, P e.2) entries _ hnone
    fun done hdone e he => forall_mem_insert (h e he) hdone

theorem ofList_append_singleton (entries : List (α × β)) (key : α) (value : β) :
    ofList (entries ++ [(key, value)]) = insert key value (ofList entries) := by
  simp only [ofList, ofListBy, List.foldl_append, List.foldl_cons, List.foldl_nil, insert]

variable [LawfulBEq α]

theorem find?_insert_self (key : α) (value : β) (entries : List (α × β)) :
    find? key (insert key value entries) = some value := by
  unfold insert
  induction entries with
  | nil => simp [insertBy, find?_cons]
  | cons entry rest ih =>
    obtain ⟨k, v⟩ := entry
    by_cases hk : k == key
    · simp [insertBy, hk, find?_cons]
    · simp [insertBy, hk, find?_cons, ih]

theorem find?_insert_of_ne {key other : α} (h : other ≠ key) (value : β)
    (entries : List (α × β)) : find? other (insert key value entries) = find? other entries := by
  unfold insert
  induction entries with
  | nil => simp [insertBy, find?_cons, h.symm]
  | cons entry rest ih =>
    obtain ⟨k, v⟩ := entry
    by_cases hk : k = key
    · subst hk
      simp [insertBy, find?_cons, h.symm]
    · simp [insertBy, hk, find?_cons, ih]

theorem mem_of_find? {key : α} {value : β} {entries : List (α × β)}
    (h : find? key entries = some value) : (key, value) ∈ entries := by
  induction entries with
  | nil => cases h
  | cons entry rest ih =>
    obtain ⟨k, v⟩ := entry
    rw [find?_cons] at h
    split at h
    · next hk =>
      obtain rfl := Option.some.inj h
      simp [eq_of_beq hk]
    · exact List.mem_cons_of_mem _ (ih h)

theorem insert_of_not_mem {key : α} {entries : List (α × β)} (h : key ∉ entries.map (·.1))
    (value : β) : insert key value entries = entries ++ [(key, value)] := by
  unfold insert
  induction entries with
  | nil => rfl
  | cons entry rest ih =>
    obtain ⟨k, v⟩ := entry
    rw [List.map_cons, List.mem_cons, not_or] at h
    have hk : (k == key) = false := beq_false_of_ne (Ne.symm h.1)
    simp [insertBy, hk, ih h.2]

theorem foldl_insert_of_nodup {done entries : List (α × β)}
    (h : ((done ++ entries).map (·.1)).Nodup) :
    entries.foldl (fun done e => insert e.1 e.2 done) done = done ++ entries := by
  induction entries generalizing done with
  | nil => simp
  | cons entry rest ih =>
    have hsplit : done ++ entry :: rest = (done ++ [entry]) ++ rest := by simp
    have hnew : entry.1 ∉ done.map (·.1) := by
      intro hmem
      rw [List.map_append, List.nodup_append] at h
      exact h.2.2 _ hmem entry.1 (by simp) rfl
    rw [hsplit] at h ⊢
    rw [List.foldl_cons, insert_of_not_mem hnew, ih h]

/-- Entries with different keys are kept as they are. -/
theorem ofList_of_nodup {entries : List (α × β)} (h : (entries.map (·.1)).Nodup) :
    ofList entries = entries := by
  have hnone : ((([] : List (α × β)) ++ entries).map (·.1)).Nodup := h
  exact foldl_insert_of_nodup hnone

theorem find?_eq_some_iff {key : α} {value : β} {entries : List (α × β)}
    (h : (entries.map (·.1)).Nodup) : find? key entries = some value ↔ (key, value) ∈ entries := by
  refine ⟨mem_of_find?, fun hmem => ?_⟩
  induction entries with
  | nil => simp at hmem
  | cons entry rest ih =>
    obtain ⟨k, v⟩ := entry
    rw [List.map_cons, List.nodup_cons] at h
    rw [find?_cons]
    rcases List.mem_cons.mp hmem with heq | hrest
    · obtain ⟨rfl, rfl⟩ := Prod.mk.inj heq
      simp
    · have hkey : key ∈ rest.map (·.1) := List.mem_map.mpr ⟨_, hrest, rfl⟩
      have hne : k ≠ key := fun hk => h.1 (hk ▸ hkey)
      simp [hne, ih h.2 hrest]

/-- The order of entries with different keys does not matter. -/
theorem find?_perm {entries others : List (α × β)} (hp : entries.Perm others)
    (h : (entries.map (·.1)).Nodup) (key : α) : find? key entries = find? key others := by
  have h' : (others.map (·.1)).Nodup := (hp.map _).nodup_iff.mp h
  ext value
  rw [find?_eq_some_iff h, find?_eq_some_iff h', hp.mem_iff]

theorem nodup_keys_ofList (entries : List (α × β)) : ((ofList entries).map (·.1)).Nodup := by
  exact (nodupBy_ofListBy (· == ·) entries).imp fun h => ne_of_beq_false h

/-- Keys are in the order of their first places. -/
theorem keys_ofList (entries : List (α × β)) :
    (ofList entries).map (·.1) = (entries.map (·.1)).eraseDups := by
  induction entries using List.reverseRecOn with
  | nil => rfl
  | append_singleton entries entry ih =>
    obtain ⟨key, value⟩ := entry
    have hany : ((entries.map (·.1)).eraseDups.any (· == key)) = (entries.map (·.1)).elem key := by
      rw [Bool.eq_iff_iff, List.any_eq_true, List.elem_iff]
      simp [List.mem_eraseDups]
    rw [ofList_append_singleton, insert, keys_insertBy, ih, List.map_append, List.eraseDups_append,
      hany, List.map_cons, List.map_nil, List.removeAll, List.filter_cons]
    cases hmem : (entries.map (·.1)).elem key with
    | true => simp
    | false => simp [List.eraseDups_cons]

/-- The value under a key is the last one. -/
theorem find?_ofList (key : α) (entries : List (α × β)) :
    find? key (ofList entries) = find? key entries.reverse := by
  induction entries using List.reverseRecOn with
  | nil => rfl
  | append_singleton entries entry ih =>
    obtain ⟨k, value⟩ := entry
    rw [ofList_append_singleton, List.reverse_append, List.reverse_singleton,
      List.singleton_append, find?_cons]
    by_cases hk : k = key
    · subst hk
      rw [find?_insert_self, if_pos (beq_self_eq_true k)]
    · rw [find?_insert_of_ne (Ne.symm hk), if_neg (by simpa using hk), ih]

theorem find?_isSome_iff {key : α} {entries : List (α × β)} :
    (find? key entries).isSome ↔ key ∈ entries.map (·.1) := by
  induction entries with
  | nil => simp
  | cons entry rest ih =>
    obtain ⟨k, v⟩ := entry
    rw [find?_cons, List.map_cons, List.mem_cons]
    by_cases hk : k = key
    · simp [hk]
    · simp [hk, ih, Ne.symm hk]

/-- A list of entries with different keys is told by its keys and what is found under them. -/
theorem eq_filterMap_keys {entries : List (α × β)} (h : (entries.map (·.1)).Nodup) :
    entries = (entries.map (·.1)).filterMap fun key => (find? key entries).map (key, ·) := by
  have hself : ∀ e ∈ entries,
      ((fun key => (find? key entries).map (key, ·)) ∘ (·.1)) e = some e := by
    rintro ⟨k, v⟩ he
    have hfound : find? k entries = some v := (find?_eq_some_iff h).mpr he
    simp [hfound]
  rw [List.filterMap_map]
  exact ((List.filterMap_congr hself).trans List.filterMap_some).symm

theorem find?_filterMap_keys {keys : List α} (f : α → Option β) (key : α) :
    find? key (keys.filterMap fun k => (f k).map (k, ·)) = if key ∈ keys then f key else none := by
  induction keys with
  | nil => simp
  | cons k rest ih =>
    by_cases hk : k = key
    · subst hk
      cases hf : f k with
      | none => simp [hf, ih]
      | some v => simp [hf, find?_cons]
    · cases hf : f k with
      | none => simp [hf, ih, Ne.symm hk]
      | some v => simp [hf, find?_cons, hk, ih, Ne.symm hk]
end SplitTest.Assoc
