import DocComment.Data.Assoc
import Mathlib.Data.List.Dedup
import Mathlib.Data.List.Induction

/-! Tables made from pairs. A table has each key of its pairs once, with what the last
pair of that key holds; pairs whose keys differ are the table as they stand. -/

namespace DocComment.Assoc

theorem ofPairs_concat {κ α : Type} [BEq κ] (pairs : List (κ × α)) (pair : κ × α) :
    ofPairs (pairs ++ [pair]) = insert pair.1 pair.2 (ofPairs pairs) := by
  simp [ofPairs, List.foldl_append]

variable {κ α : Type} [BEq κ] [LawfulBEq κ]

theorem insert_of_notMem {key : κ} {a : α} {table : List (κ × α)}
    (h : key ∉ table.map Prod.fst) : insert key a table = table ++ [(key, a)] := by
  induction table with
  | nil => rfl
  | cons pair rest ih =>
    simp only [List.map_cons, List.mem_cons, not_or] at h
    have hne : (pair.1 == key) = false := by simpa using Ne.symm h.1
    simp [insert, hne, ih h.2]

theorem ofPairs_of_nodup {pairs : List (κ × α)} (h : (pairs.map Prod.fst).Nodup) :
    ofPairs pairs = pairs := by
  induction pairs using List.reverseRecOn with
  | nil => rfl
  | append_singleton pairs pair ih =>
    rw [List.map_append, List.nodup_append] at h
    have hnew : pair.1 ∉ pairs.map Prod.fst := fun hmem => h.2.2 _ hmem _ (by simp) rfl
    rw [ofPairs_concat, ih h.1, insert_of_notMem hnew]

theorem lookup_of_mem {key : κ} {a : α} {table : List (κ × α)}
    (hnodup : (table.map Prod.fst).Nodup) (h : (key, a) ∈ table) : table.lookup key = some a := by
  induction table with
  | nil => simp at h
  | cons pair rest ih =>
    obtain ⟨k, b⟩ := pair
    rw [List.map_cons, List.nodup_cons] at hnodup
    rcases List.mem_cons.1 h with heq | hmem
    · cases heq
      simp
    · have hne : (key == k) = false := by
        have : key ∈ rest.map Prod.fst := List.mem_map.2 ⟨(key, a), hmem, rfl⟩
        simp only [beq_eq_false_iff_ne]
        rintro rfl
        exact hnodup.1 this
      rw [List.lookup_cons, hne]
      exact ih hnodup.2 hmem

/-- Of the pairs under one key the last counts. -/
theorem lookup_ofPairs (pairs : List (κ × α)) (key : κ) :
    (ofPairs pairs).lookup key = (pairs.filter (·.1 == key)).getLast?.map Prod.snd := by
  induction pairs using List.reverseRecOn with
  | nil => rfl
  | append_singleton pairs pair ih =>
    obtain ⟨k, b⟩ := pair
    rw [ofPairs_concat, List.filter_append, List.getLast?_append]
    by_cases hk : k = key
    · subst hk
      simp [lookup_insert_self]
    · have hnot : (k == key) = false := by simpa using hk
      simp [lookup_insert_of_ne (Ne.symm hk), ih, hnot]

theorem mem_keys_insert {key other : κ} {a : α} {table : List (κ × α)} :
    other ∈ (insert key a table).map Prod.fst ↔ other = key ∨ other ∈ table.map Prod.fst := by
  rw [← not_iff_not, ← lookup_eq_none_iff_notMem, not_or, ← lookup_eq_none_iff_notMem]
  by_cases h : other = key
  · subst h
    simp [lookup_insert_self]
  · simp [lookup_insert_of_ne h, h]

theorem nodup_keys_insert {key : κ} {a : α} {table : List (κ × α)}
    (h : (table.map Prod.fst).Nodup) : ((insert key a table).map Prod.fst).Nodup := by
  induction table with
  | nil => simp [insert]
  | cons pair rest ih =>
    obtain ⟨k, b⟩ := pair
    obtain ⟨hk, hrest⟩ := List.nodup_cons.1 h
    by_cases he : k = key
    · subst he
      simpa [insert] using h
    · have hne : (k == key) = false := by simpa using he
      rw [insert, hne]
      refine List.nodup_cons.2 ⟨?_, ih hrest⟩
      rw [mem_keys_insert]
      exact fun hmem => hmem.elim he hk

theorem mem_keys_ofPairs {pairs : List (κ × α)} {key : κ} :
    key ∈ (ofPairs pairs).map Prod.fst ↔ key ∈ pairs.map Prod.fst := by
  induction pairs using List.reverseRecOn with
  | nil => rfl
  | append_singleton pairs pair ih =>
    rw [ofPairs_concat, mem_keys_insert, ih]
    simp [or_comm]

theorem nodup_keys_ofPairs (pairs : List (κ × α)) : ((ofPairs pairs).map Prod.fst).Nodup := by
  induction pairs using List.reverseRecOn with
  | nil => exact List.nodup_nil
  | append_singleton pairs pair ih =>
    rw [ofPairs_concat]
    exact nodup_keys_insert ih

theorem mem_of_mem_ofPairs {pairs : List (κ × α)} {pair : κ × α} (h : pair ∈ ofPairs pairs) :
    pair ∈ pairs := by
  have hlast := lookup_of_mem (nodup_keys_ofPairs pairs) h
  rw [lookup_ofPairs] at hlast
  obtain ⟨⟨k, b⟩, hfound, rfl⟩ := Option.map_eq_some_iff.1 hlast
  obtain ⟨hmem, hk⟩ := List.mem_filter.1 (List.mem_of_getLast? hfound)
  obtain rfl : k = pair.1 := eq_of_beq hk
  exact hmem

theorem length_ofPairs [DecidableEq κ] (pairs : List (κ × α)) :
    (ofPairs pairs).length = (pairs.map Prod.fst).dedup.length := by
  have hperm : ((ofPairs pairs).map Prod.fst).Perm (pairs.map Prod.fst).dedup :=
    (List.perm_ext_iff_of_nodup (nodup_keys_ofPairs pairs) (List.nodup_dedup _)).2 fun key => by
      rw [mem_keys_ofPairs, List.mem_dedup]
  simpa using hperm.length_eq

end DocComment.Assoc
