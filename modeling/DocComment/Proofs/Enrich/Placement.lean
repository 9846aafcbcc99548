import DocComment.Proofs.Enrich.Members
import Mathlib.Data.Nat.Nth

/-! Which property a member of an interface is merged into. The slots for members are the
indices behind the documented properties and those of the properties that are no part of
another one. In rising order they are a sequence, and the first member is merged at the
first slot, the second one at the second, and so on. The loop over members and properties
goes on by one entry at a time, which moves the slots that are left by one. -/

namespace DocComment

/-- A property after the loop has passed over it: it has the notes that every property has. -/
def PropertyDoc.passedOver (p : PropertyDoc) : PropertyDoc :=
  { p with
    deprecated := p.deprecated.or (some false)
    access := (said p.access).or (some "public") }

namespace Doclet

/-- The index is one for a member: no property is there, or one whose name is absent, has
no point, or begins with one. -/
def IsSlot (properties : List PropertyDoc) (i : Nat) : Prop :=
  ∀ p name, properties[i]? = some p → p.name = some name →
    '.' ∉ name.toList ∨ name.toList.head? = some '.'

/-- The slots in rising order. -/
noncomputable def slot (properties : List PropertyDoc) (j : Nat) : Nat :=
  Nat.nth (IsSlot properties) j

/-- The index behind the slots of so many members. -/
noncomputable def reach (properties : List PropertyDoc) : Nat → Nat
  | 0 => 0
  | n + 1 => slot properties n + 1

/-- What there is at the slot of a member, before it is merged. -/
noncomputable def atSlot (properties : List PropertyDoc) (j : Nat) : PropertyDoc :=
  properties[slot properties j]?.getD {}

/-- Every member is merged into the property at its slot, and the other properties are at
most passed over. -/
structure FillsSlots (dictionary : Dictionary) (members : List InterfaceMember)
    (before after : List PropertyDoc) : Prop where
  merged : ∀ j m, members[j]? = some m → ∃ q, after[slot before j]? = some q ∧
    mergeMember dictionary (atSlot before j) m = some q
  passed : ∀ i p, before[i]? = some p → (∀ j < members.length, slot before j ≠ i) →
    after[i]? = some (if i < reach before members.length then p.passedOver else p)
  length : after.length = max before.length (reach before members.length)

theorem isNested_eq_false_iff {p : PropertyDoc} :
    isNested p = false ↔
      ∀ name, p.name = some name → '.' ∉ name.toList ∨ name.toList.head? = some '.' := by
  rw [isNested]
  cases hp : p.name with
  | none => simp
  | some name =>
    simp only [Option.getD_some, Option.some.injEq, forall_eq']
    cases hname : name.toList with
    | nil => simp
    | cons c rest =>
      by_cases hc : c = '.'
      · simp [hc]
      · simp [hc, Ne.symm hc]

section Slot

variable {properties : List PropertyDoc} {i : Nat}

theorem isSlot_iff :
    IsSlot properties i ↔ ∀ p, properties[i]? = some p → isNested p = false := by
  refine forall_congr' fun p => ?_
  rw [isNested_eq_false_iff]
  exact ⟨fun h hp name => h name hp, fun h name hp => h hp name⟩

instance : DecidablePred (IsSlot properties) := fun i =>
  decidable_of_iff (∀ p ∈ properties[i]?, isNested p = false) isSlot_iff.symm

theorem isSlot_succ_iff : IsSlot properties (i + 1) ↔ IsSlot properties.tail i := by
  simp only [IsSlot, List.getElem?_tail]

theorem isSlot_of_length_le (h : properties.length ≤ i) : IsSlot properties i := by
  intro p name hp
  rw [List.getElem?_eq_none h] at hp
  simp at hp

theorem infinite_isSlot (properties : List PropertyDoc) :
    (Set.ofPred (IsSlot properties)).Infinite := by
  refine Set.infinite_of_forall_exists_gt fun i => ⟨max properties.length (i + 1), ?_, by omega⟩
  exact isSlot_of_length_le (le_max_left _ _)

theorem isSlot_slot (properties : List PropertyDoc) (j : Nat) :
    IsSlot properties (slot properties j) :=
  Nat.nth_mem_of_infinite (infinite_isSlot properties) j

/-- The slots of a list are those of its tail moved by one, after index 0 if that is a
slot. -/
theorem slot_add (properties : List PropertyDoc) (j : Nat) :
    slot properties (j + if IsSlot properties 0 then 1 else 0) = slot properties.tail j + 1 := by
  have hcount : Nat.count (IsSlot properties) (slot properties.tail j + 1) =
      j + if IsSlot properties 0 then 1 else 0 := by
    have hcount := Nat.count_nth_of_infinite (infinite_isSlot properties.tail) j
    rw [Nat.count_succ']
    simp only [isSlot_succ_iff]
    rw [slot, hcount]
  rw [← hcount]
  exact Nat.nth_count (isSlot_succ_iff.mpr (isSlot_slot properties.tail j))

theorem slot_zero (h : IsSlot properties 0) : slot properties 0 = 0 := Nat.nth_zero_of_zero h

theorem slot_succ (h : IsSlot properties 0) (j : Nat) :
    slot properties (j + 1) = slot properties.tail j + 1 := by
  have hslot := slot_add properties j
  rwa [if_pos h] at hslot

theorem slot_of_not (h : ¬ IsSlot properties 0) (j : Nat) :
    slot properties j = slot properties.tail j + 1 := by
  have hslot := slot_add properties j
  rwa [if_neg h] at hslot

theorem reach_succ (h : IsSlot properties 0) (n : Nat) :
    reach properties (n + 1) = reach properties.tail n + 1 := by
  cases n with
  | zero => simp only [reach, slot_zero h]
  | succ n => simp only [reach, slot_succ h]

theorem reach_of_not (h : ¬ IsSlot properties 0) {n : Nat} (hn : 0 < n) :
    reach properties n = reach properties.tail n + 1 := by
  obtain ⟨n, rfl⟩ := Nat.exists_eq_add_one.mpr hn
  simp only [reach, slot_of_not h]

theorem atSlot_zero (h : IsSlot properties 0) :
    atSlot properties 0 = properties[0]?.getD {} := by
  rw [atSlot, slot_zero h]

theorem atSlot_succ (h : IsSlot properties 0) (j : Nat) :
    atSlot properties (j + 1) = atSlot properties.tail j := by
  rw [atSlot, slot_succ h, atSlot, List.getElem?_tail]

theorem atSlot_of_not (h : ¬ IsSlot properties 0) (j : Nat) :
    atSlot properties j = atSlot properties.tail j := by
  rw [atSlot, slot_of_not h, atSlot, List.getElem?_tail]

end Slot

section Fill

variable {dictionary : Dictionary} {members : List InterfaceMember} {m : InterfaceMember}
  {before after : List PropertyDoc} {p q : PropertyDoc}

theorem fillsSlots_nil (dictionary : Dictionary) (before : List PropertyDoc) :
    FillsSlots dictionary [] before before where
  merged j m h := by simp at h
  passed i p h _ := by simp [reach, h]
  length := by simp [reach]

/-- The member that comes next is merged into the entry that comes next. -/
theorem FillsSlots.merge (h : FillsSlots dictionary members before.tail after)
    (hslot : IsSlot before 0) (hm : mergeMember dictionary (before[0]?.getD {}) m = some q) :
    FillsSlots dictionary (m :: members) before (q :: after) where
  merged j n hn := by
    cases j with
    | zero =>
      obtain rfl : m = n := by simpa using hn
      exact ⟨q, by rw [slot_zero hslot]; rfl, by rw [atSlot_zero hslot, hm]⟩
    | succ j =>
      obtain ⟨r, hr, hmerged⟩ := h.merged j n (by simpa using hn)
      refine ⟨r, ?_, ?_⟩
      · rw [slot_succ hslot, List.getElem?_cons_succ, hr]
      · rw [atSlot_succ hslot, hmerged]
  passed i p hp hother := by
    cases i with
    | zero => exact absurd (slot_zero hslot) (hother 0 (by simp))
    | succ i =>
      have hrest := h.passed i p (by rwa [List.getElem?_tail]) fun j hj heq =>
        hother (j + 1) (by simpa using hj) (by rw [slot_succ hslot, heq])
      rw [List.getElem?_cons_succ, hrest, List.length_cons, reach_succ hslot]
      simp
  length := by
    rw [List.length_cons, List.length_cons, h.length, reach_succ hslot, List.length_tail]
    omega

/-- An entry that is no slot is passed over while members are left. -/
theorem FillsSlots.passOver (h : FillsSlots dictionary members before after)
    (hslot : ¬ IsSlot (p :: before) 0) (hmembers : 0 < members.length) :
    FillsSlots dictionary members (p :: before) (p.passedOver :: after) where
  merged j n hn := by
    obtain ⟨r, hr, hmerged⟩ := h.merged j n hn
    refine ⟨r, ?_, ?_⟩
    · rw [slot_of_not hslot, List.getElem?_cons_succ, List.tail_cons, hr]
    · rw [atSlot_of_not hslot, List.tail_cons, hmerged]
  passed i r hr hother := by
    rw [reach_of_not hslot hmembers, List.tail_cons]
    cases i with
    | zero =>
      obtain rfl : p = r := by simpa using hr
      simp
    | succ i =>
      have hrest := h.passed i r (by simpa using hr) fun j hj heq =>
        hother j hj (by rw [slot_of_not hslot, List.tail_cons, heq])
      rw [List.getElem?_cons_succ, hrest]
      simp
  length := by
    rw [List.length_cons, h.length, reach_of_not hslot hmembers, List.length_cons, List.tail_cons]
    omega

theorem mergeMember_empty (dictionary : Dictionary) (p : PropertyDoc) :
    mergeMember dictionary p {} = some p.passedOver := by
  have hnotes : memberNotes dictionary {} =
      [("deprecated", .flag false), ("access", .words "public")] := rfl
  have htext : typeIsText p [("deprecated", .flag false), ("access", .words "public")] = false := by
    simp [typeIsText, List.lookup_cons]
  have hnone : said none = none := rfl
  have hempty : said (some "") = none := rfl
  simp [mergeMember, hnotes, htext, placeNote, MemberNote.bool?, MemberNote.text?, hnone, hempty,
    PropertyDoc.passedOver]

/-- All members can be merged at their slots. -/
def AllMerge (dictionary : Dictionary) (members : List InterfaceMember)
    (before : List PropertyDoc) : Prop :=
  ∀ j m, members[j]? = some m → (mergeMember dictionary (atSlot before j) m).isSome

theorem allMerge_nil (dictionary : Dictionary) (before : List PropertyDoc) :
    AllMerge dictionary [] before := by
  intro j m h
  simp at h

theorem allMerge_cons_iff (hslot : IsSlot before 0) :
    AllMerge dictionary (m :: members) before ↔
      (mergeMember dictionary (before[0]?.getD {}) m).isSome ∧
        AllMerge dictionary members before.tail := by
  constructor
  · intro h
    refine ⟨by simpa [atSlot_zero hslot] using h 0 m rfl, fun j n hn => ?_⟩
    simpa [atSlot_succ hslot] using h (j + 1) n (by simpa using hn)
  · rintro ⟨hfirst, hrest⟩ j n hn
    cases j with
    | zero =>
      obtain rfl : m = n := by simpa using hn
      rwa [atSlot_zero hslot]
    | succ j =>
      rw [atSlot_succ hslot]
      exact hrest j n (by simpa using hn)

theorem allMerge_iff_of_not (hslot : ¬ IsSlot before 0) :
    AllMerge dictionary members before ↔ AllMerge dictionary members before.tail := by
  simp only [AllMerge, atSlot_of_not hslot]

end Fill

theorem alignMembers_isDone_iff (dictionary : Dictionary) (members : List InterfaceMember)
    (before : List PropertyDoc) :
    (alignMembers dictionary members before).2 = true ↔ AllMerge dictionary members before := by
  have hnil : IsSlot [] 0 := isSlot_of_length_le (Nat.le_refl 0)
  fun_induction alignMembers dictionary members before with
  | case1 before => simp [allMerge_nil]
  | case2 m members hm => simp [allMerge_cons_iff hnil, hm]
  | case3 m members q hm rest ok hr ih =>
    rw [hr] at ih
    simp [allMerge_cons_iff hnil, hm, ih]
  | case4 m members p before hn hm => simp [mergeMember_empty] at hm
  | case5 m members p before hn merged hm rest ok hr ih =>
    rw [hr] at ih
    have hslot : ¬ IsSlot (p :: before) 0 := by simp [isSlot_iff, hn]
    simpa [allMerge_iff_of_not hslot] using ih
  | case6 m members p before hn hm =>
    have hslot : IsSlot (p :: before) 0 := by simpa [isSlot_iff] using hn
    simp [allMerge_cons_iff hslot, hm]
  | case7 m members p before hn merged hm rest ok hr ih =>
    rw [hr] at ih
    have hslot : IsSlot (p :: before) 0 := by simpa [isSlot_iff] using hn
    simp [allMerge_cons_iff hslot, hm, ih]

theorem alignMembers_fillsSlots (dictionary : Dictionary) (members : List InterfaceMember)
    (before : List PropertyDoc) (h : (alignMembers dictionary members before).2 = true) :
    FillsSlots dictionary members before (alignMembers dictionary members before).1 := by
  fun_induction alignMembers dictionary members before with
  | case1 before => exact fillsSlots_nil dictionary before
  | case2 | case4 | case6 => simp at h
  | case3 m members q hm rest ok hr ih =>
    rw [hr] at ih
    have hrest : FillsSlots dictionary members ([] : List PropertyDoc).tail rest := ih h
    exact hrest.merge (isSlot_of_length_le (Nat.le_refl 0)) hm
  | case5 m members p before hn merged hm rest ok hr ih =>
    rw [hr] at ih
    rw [mergeMember_empty, Option.some.injEq] at hm
    rw [← hm]
    exact (ih h).passOver (by simp [isSlot_iff, hn]) (by simp)
  | case7 m members p before hn merged hm rest ok hr ih =>
    rw [hr] at ih
    exact (ih h).merge (by simpa [isSlot_iff] using hn) hm

/-- A member gives its key to a property that has no name. -/
theorem name_mergeMember {dictionary : Dictionary} {p q : PropertyDoc} {m : InterfaceMember}
    (h : mergeMember dictionary p m = some q) {name : String}
    (hname : (said p.name).or (said (some m.key)) = some name) : q.name = some name := by
  rcases Option.or_eq_some_iff.mp hname with hname | ⟨hnone, hkey⟩
  · exact (mergeMember_kept h).name name hname
  · -- merging into a property without a name is merging into one that has the key for its name
    obtain ⟨hkey, hne⟩ := said_eq_some.mp hkey
    have hsaid : said (some m.key) = some name := said_eq_some.mpr ⟨hkey, hne⟩
    have hnamed : mergeMember dictionary { p with name := some m.key } m =
        mergeMember dictionary p m := by
      obtain rfl := Option.some.inj hkey
      simp [mergeMember, typeIsText, hnone, hsaid, hne]
    rw [← hnamed] at h
    exact (mergeMember_kept h).name name hsaid

/-- The members of an interface are lined up with the documented properties one to one: the
loop over them comes to its end exactly when each can be merged at its slot, and with a
dictionary that reads types each can. Then every member is in the property at its slot,
which has the name from before or else the key of the member; no other property has
anything of a member, and every property is where it was. -/
theorem unrollInterface_fillsSlots (context : Context) (i : InterfaceFact) (d : Doclet) :
    let before := d.properties.getD []
    let run := unrollInterface context i d
    (context.dictionary.ReadsTypes → run.fault = none) ∧
      (run.fault = none ↔ AllMerge context.dictionary i.body before) ∧
      (run.fault = none → ∃ after, run.doclet.properties = some after ∧
        FillsSlots context.dictionary i.body before after ∧
        KeptAlong PropertyDoc.Kept before after ∧
        ∀ j m name, i.body[j]? = some m →
          (said (atSlot before j).name).or (said (some m.key)) = some name →
          (after[slot before j]?.bind fun p => p.name) = some name) := by
  intro before run
  have hfault : run.fault = none ↔
      (alignMembers context.dictionary i.body before).2 = true := by
    cases hdone : (alignMembers context.dictionary i.body before).2 <;>
      simp [run, before, unrollInterface, hdone]
  refine ⟨fun hd => hfault.mpr (alignMembers_isDone hd i.body before),
    hfault.trans (alignMembers_isDone_iff _ _ _), fun hdone => ?_⟩
  have hfills := alignMembers_fillsSlots _ _ _ (hfault.mp hdone)
  refine ⟨_, rfl, hfills, alignMembers_kept _ _ _, fun j m name hm hname => ?_⟩
  obtain ⟨q, hq, hmerged⟩ := hfills.merged j m hm
  rw [hq, Option.bind_some, name_mergeMember hmerged hname]

/-- The second member goes past a part of the first property to a name that begins with a
point, and the third one behind all properties. -/
theorem unrollInterface_fillsSlots_past_part :
    let before : List PropertyDoc :=
      [{ name := some "x" }, { name := some "x.y" }, { name := some ".z" }]
    let i : InterfaceFact := { body := [{ key := "a" }, { key := "b" }, { key := "c" }] }
    let run := unrollInterface {} i { properties := some before }
    Dictionary.standard.ReadsTypes ∧ run.fault = none ∧ slot before 1 = 2 ∧ slot before 2 = 3 ∧
      ∃ after, run.doclet.properties = some after ∧ after.length = 4 ∧
        after[1]? = some { name := some "x.y", deprecated := some false, access := some "public" } ∧
        (after[2]?.bind fun p => p.name) = some ".z" ∧
        (after[3]?.bind fun p => p.name) = some "c" := by
  intro before i run
  obtain ⟨hends, -, hfills⟩ :=
    unrollInterface_fillsSlots {} i { properties := some before }
  have hfault : run.fault = none := hends Dictionary.readsTypes_standard
  obtain ⟨after, hafter, hslots, -, hnames⟩ := hfills hfault
  replace hslots : FillsSlots Dictionary.standard i.body before after := hslots
  have hone : slot before 1 = 2 := Nat.nth_count (p := IsSlot before) (n := 2) (by decide)
  have htwo : slot before 2 = 3 := Nat.nth_count (p := IsSlot before) (n := 3) (by decide)
  have hreach : reach before i.body.length = 4 := congrArg (· + 1) htwo
  refine ⟨Dictionary.readsTypes_standard, hfault, hone, htwo, after, hafter, ?_, ?_, ?_, ?_⟩
  · rw [hslots.length, hreach]
    rfl
  · have hpart : ¬ IsSlot before 1 := by decide
    have hpassed := hslots.passed 1 { name := some "x.y" } rfl fun j _ hj =>
      hpart (hj ▸ isSlot_slot before j)
    rw [hpassed, hreach]
    rfl
  · have hname : (said (atSlot before 1).name).or (said (some "b")) = some ".z" := by
      rw [atSlot, hone]
      decide
    rw [← hone]
    exact hnames 1 { key := "b" } ".z" rfl hname
  · have hname : (said (atSlot before 2).name).or (said (some "c")) = some "c" := by
      rw [atSlot, htwo]
      decide
    rw [← htwo]
    exact hnames 2 { key := "c" } "c" rfl hname

end Doclet

end DocComment
