/-! Tables as lists of pairs in the order of first insertion. -/

namespace DocComment.Assoc

/-- Puts a pair at the end, or in the old place when the key is taken. -/
def insert {κ α : Type} [BEq κ] (key : κ) (a : α) : List (κ × α) → List (κ × α)
  | [] => [(key, a)]
  | (k, b) :: rest => if k == key then (k, a) :: rest else (k, b) :: insert key a rest

def erase {κ α : Type} [BEq κ] (key : κ) (table : List (κ × α)) : List (κ × α) :=
  table.filter fun pair => !(pair.1 == key)

def contains {κ α : Type} [BEq κ] (key : κ) (table : List (κ × α)) : Bool :=
  table.any (·.1 == key)

/-- Keeps an entry that is already there. -/
def insertNew {κ α : Type} [BEq κ] (key : κ) (a : α) (table : List (κ × α)) : List (κ × α) :=
  if contains key table then table else table ++ [(key, a)]

/-- Later pairs replace earlier ones of the same key. -/
def ofPairs {κ α : Type} [BEq κ] (pairs : List (κ × α)) : List (κ × α) :=
  pairs.foldl (fun table pair => insert pair.1 pair.2 table) []

variable {κ α : Type} [BEq κ] [LawfulBEq κ]

theorem lookup_insert_self (key : κ) (a : α) (table : List (κ × α)) :
    (insert key a table).lookup key = some a := by
  induction table with
  | nil => simp [insert]
  | cons pair rest ih =>
    obtain ⟨k, b⟩ := pair
    by_cases h : k = key
    · simp [insert, h]
    · have h' : (key == k) = false := by simpa using Ne.symm h
      simp [insert, h, List.lookup_cons, h', ih]

theorem lookup_insert_of_ne {key other : κ} (h : other ≠ key) (a : α) (table : List (κ × α)) :
    (insert key a table).lookup other = table.lookup other := by
  induction table with
  | nil =>
    have h' : (other == key) = false := by simpa using h
    simp [insert, List.lookup_cons, h']
  | cons pair rest ih =>
    obtain ⟨k, b⟩ := pair
    by_cases hk : k = key
    · subst hk
      have h' : (other == k) = false := by simpa using h
      simp [insert, List.lookup_cons, h']
    · by_cases ho : other = k
      · subst ho
        simp [insert, hk]
      · have h' : (other == k) = false := by simpa using ho
        simp [insert, hk, List.lookup_cons, h', ih]

theorem lookup_erase_self (key : κ) (table : List (κ × α)) :
    (erase key table).lookup key = none := by
  rw [List.lookup_eq_none_iff]
  intro pair hpair
  simp only [erase, List.mem_filter, Bool.not_eq_eq_eq_not, Bool.not_true,
    beq_eq_false_iff_ne] at hpair
  simpa using Ne.symm hpair.2

theorem lookup_erase_of_ne {key other : κ} (h : other ≠ key) (table : List (κ × α)) :
    (erase key table).lookup other = table.lookup other := by
  induction table with
  | nil => rfl
  | cons pair rest ih =>
    obtain ⟨k, b⟩ := pair
    unfold erase at ih ⊢
    by_cases hk : k = key
    · subst hk
      have h' : (other == k) = false := by simpa using h
      simpa [List.lookup_cons, h'] using ih
    · simp [hk, List.lookup_cons, ih]

theorem contains_iff {key : κ} {table : List (κ × α)} :
    contains key table = true ↔ key ∈ table.map Prod.fst := by
  simp only [contains, List.any_eq_true, List.mem_map, beq_iff_eq]

theorem lookup_eq_none_iff_notMem {key : κ} {table : List (κ × α)} :
    table.lookup key = none ↔ key ∉ table.map Prod.fst := by
  rw [List.lookup_eq_none_iff]
  constructor
  · intro h hmem
    obtain ⟨pair, hpair, rfl⟩ := List.mem_map.mp hmem
    simpa using h pair hpair
  · intro h pair hpair
    have hne : key ≠ pair.1 := fun he => h (List.mem_map.mpr ⟨pair, hpair, he.symm⟩)
    simpa using hne

theorem lookup_insertNew (key : κ) (a : α) (table : List (κ × α)) (other : κ) :
    (insertNew key a table).lookup other =
      (table.lookup other).or (if other == key then some a else none) := by
  unfold insertNew
  split
  next h =>
    cases hk : other == key with
    | false => simp
    | true =>
      obtain rfl : other = key := eq_of_beq hk
      cases ht : table.lookup other with
      | none => exact absurd (contains_iff.mp h) (lookup_eq_none_iff_notMem.mp ht)
      | some b => rfl
  next =>
    have hpair : [(key, a)].lookup other = if other == key then some a else none := by
      cases hk : other == key <;> simp [List.lookup_cons, hk]
    rw [List.lookup_append, hpair]

/-- What is there already goes before what is put in. -/
theorem lookup_foldl_insertNew (pairs table : List (κ × α)) (key : κ) :
    (pairs.foldl (fun table pair => insertNew pair.1 pair.2 table) table).lookup key =
      (table.lookup key).or (pairs.lookup key) := by
  induction pairs generalizing table with
  | nil => simp
  | cons pair pairs ih =>
    obtain ⟨k, b⟩ := pair
    have hpairs : ((k, b) :: pairs).lookup key =
        (if key == k then some b else none).or (pairs.lookup key) := by
      cases hk : key == k <;> simp [List.lookup_cons, hk]
    rw [List.foldl_cons, ih, lookup_insertNew, Option.or_assoc, hpairs]

/-- What is put in goes before what is there already. -/
theorem lookup_foldl_insert_pairs {pairs : List (κ × α)} (h : (pairs.map Prod.fst).Nodup)
    (table : List (κ × α)) (key : κ) :
    (pairs.foldl (fun table pair => insert pair.1 pair.2 table) table).lookup key =
      (pairs.lookup key).or (table.lookup key) := by
  induction pairs generalizing table with
  | nil => simp
  | cons pair pairs ih =>
    obtain ⟨k, b⟩ := pair
    obtain ⟨hnew, hpairs⟩ := List.nodup_cons.mp h
    rw [List.foldl_cons, ih hpairs]
    by_cases hk : key = k
    · subst hk
      have hnone : pairs.lookup key = none := lookup_eq_none_iff_notMem.mpr hnew
      rw [hnone, lookup_insert_self]
      simp
    · have hk' : (key == k) = false := by simpa using hk
      rw [lookup_insert_of_ne hk, List.lookup_cons, hk']

end DocComment.Assoc
