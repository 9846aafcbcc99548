import DocComment.Proofs.Data.Convey

/-! Places in plain data before and after cleaning. Whatever the cleaned data has at
a place is the cleaned form of one value of the data, its origin: the item of that
number, or the last member, among those that are not null, whose name becomes the
name there. So an object has as many members afterwards as its members that are not
null have different names in camel case. -/

namespace DocComment

namespace Value

def present (ms : List (String × Value)) : List (String × Value) := ms.filter (!·.2.isNull)

/-- The names that the members which are not null have after cleaning. -/
def cleanNames (ms : List (String × Value)) : List String := (present ms).map (camel ·.1)

/-- What a value has one step further down. -/
def child? (v : Value) : Segment → Option Value
  | .field name => v.get? name
  | .item index => v.list?.bind (·[index]?)

/-- What the cleaned value has one step further down comes from. -/
def source? : Value → Segment → Option Value
  | oddKey _ v, s => v.source? s
  | object ms, .field name => ((present ms).filter (camel ·.1 == name)).getLast?.map Prod.snd
  | list items, .item index => items[index]?
  | _, _ => none

def follow (step : Value → Segment → Option Value) (v : Value) : List Segment → Option Value
  | [] => some v
  | s :: path => (step v s).bind fun u => follow step u path

/-- What stands at a place. -/
def at? : Value → List Segment → Option Value := follow child?

/-- What the cleaned value has at a place comes from. -/
def origin? : Value → List Segment → Option Value := follow source?

/-- The members of an object, under whatever key it stands. -/
def members? : Value → Option (List (String × Value))
  | oddKey _ v => v.members?
  | object ms => some ms
  | _ => none

mutual

/-- The objects in a value, at any depth. -/
def objects : Value → List (List (String × Value))
  | list items => objectsOfItems items
  | object ms => ms :: objectsOfMembers ms
  | oddKey _ v => objects v
  | _ => []

def objectsOfItems : List Value → List (List (String × Value))
  | [] => []
  | v :: rest => objects v ++ objectsOfItems rest

def objectsOfMembers : List (String × Value) → List (List (String × Value))
  | [] => []
  | (_, v) :: rest => objects v ++ objectsOfMembers rest

end

/-- `w` has what `v` has right below: for an object one without nulls, with as many
members of different names as `count` says, and for a list one as long. -/
def Shows (count : List (String × Value) → Nat) : Value → Value → Prop
  | oddKey _ v, w => Shows count v w
  | object ms, w => ∃ kept, w = object kept ∧ (kept.map Prod.fst).Nodup ∧
      kept.length = count ms ∧ ∀ m ∈ kept, m.2.isNull = false
  | list items, w => ∃ kept, w = list kept ∧ kept.length = items.length
  | v, w => w = v

/-- The cleaned value has something at those places, and only those, that have an
origin, and there it shows its origin. -/
def CleanShows (count : List (String × Value) → Nat) (v : Value) : Prop :=
  ∀ path, Option.Rel (Shows count) (v.origin? path) (v.clean.at? path)

/-- All that cleaning takes away is members that are null. -/
def DropsOnlyNulls : Value → Prop := CleanShows fun ms => (present ms).length

theorem isNull_clean : ∀ v : Value, v.clean.isNull = v.isNull
  | null | bool _ | int _ | float _ | text _ | list _ | object _ => rfl
  | oddKey _ v => by rw [clean, isNull, isNull_clean v]

theorem child?_clean : ∀ (v : Value) (s : Segment), v.clean.child? s = (v.source? s).map clean
  | oddKey _ v, s => by rw [clean, source?, child?_clean v s]
  | list items, .item index => by
    rw [clean, cleanItems_eq_map]
    exact List.getElem?_map
  | object ms, .field name => by
    have hlast : (object ms).clean.child? (.field name) =
        (Assoc.ofPairs (cleanMembers ms)).lookup name := rfl
    rw [hlast, Assoc.lookup_ofPairs, cleanMembers_eq_map, List.filter_map, List.getLast?_map,
      Option.map_map, source?, Option.map_map]
    rfl
  | list _, .field _ | object _, .item _ => rfl
  | null, s | bool _, s | int _, s | float _, s | text _, s => by cases s <;> rfl

theorem at?_clean (v : Value) (path : List Segment) :
    v.clean.at? path = (v.origin? path).map clean := by
  induction path generalizing v with
  | nil => rfl
  | cons s path ih =>
    have hstep : v.clean.at? (s :: path) = (v.clean.child? s).bind (·.at? path) := rfl
    rw [hstep, child?_clean, Option.bind_map, origin?, follow, Option.map_bind]
    exact congrArg _ (funext ih)

theorem shows_clean_iff (count : List (String × Value) → Nat) : ∀ v : Value,
    Shows count v v.clean ↔
      ∀ ms, v.members? = some ms → (cleanNames ms).dedup.length = count ms
  | oddKey _ v => shows_clean_iff count v
  | object ms => by
    have hlength : (Assoc.ofPairs (cleanMembers ms)).length = (cleanNames ms).dedup.length := by
      rw [Assoc.length_ofPairs, cleanMembers_eq_map, List.map_map]
      rfl
    have hnull : ∀ m ∈ Assoc.ofPairs (cleanMembers ms), m.2.isNull = false := by
      intro m hm
      have hmem := Assoc.mem_of_mem_ofPairs hm
      rw [cleanMembers_eq_map] at hmem
      obtain ⟨n, hn, rfl⟩ := List.mem_map.1 hmem
      simpa [isNull_clean] using (List.mem_filter.1 hn).2
    constructor
    · rintro ⟨kept, hkept, -, hcount, -⟩ ns hns
      cases hns
      cases hkept
      rw [← hlength, hcount]
    · intro hcount
      exact ⟨_, rfl, Assoc.nodup_keys_ofPairs _, hlength.trans (hcount ms rfl), hnull⟩
  | list items => by
    simp [Shows, clean, cleanItems_eq_map, members?]
  | null | bool _ | int _ | float _ | text _ => by simp [Shows, clean, members?]

theorem cleanShows_iff (count : List (String × Value) → Nat) (v : Value) :
    v.CleanShows count ↔
      ∀ path u ms, v.origin? path = some u → u.members? = some ms →
        (cleanNames ms).dedup.length = count ms := by
  constructor
  · intro h path u ms hu
    have hrel := h path
    rw [at?_clean, hu] at hrel
    cases hrel with
    | some hshows => exact (shows_clean_iff count u).1 hshows ms
  · intro h path
    rw [at?_clean]
    cases hu : v.origin? path with
    | none => exact .none
    | some u => exact .some ((shows_clean_iff count u).2 fun ms => h path u ms hu)

theorem mem_objectsOfItems {items : List Value} {ms : List (String × Value)} :
    ms ∈ objectsOfItems items ↔ ∃ v ∈ items, ms ∈ v.objects := by
  induction items with
  | nil => simp [objectsOfItems]
  | cons v rest ih => simp [objectsOfItems, ih]

theorem mem_objectsOfMembers {ns ms : List (String × Value)} :
    ms ∈ objectsOfMembers ns ↔ ∃ n ∈ ns, ms ∈ n.2.objects := by
  induction ns with
  | nil => simp [objectsOfMembers]
  | cons n rest ih => simp [objectsOfMembers, ih]

theorem objects_of_isNull : ∀ {v : Value}, v.isNull = true → v.objects = []
  | null, _ => rfl
  | oddKey _ v, h => objects_of_isNull (v := v) h

theorem mem_objects_of_members? : ∀ {v : Value} {ms : List (String × Value)},
    v.members? = some ms → ms ∈ v.objects
  | oddKey _ v, _, h => mem_objects_of_members? (v := v) h
  | object ms, _, h => by
    cases h
    exact List.mem_cons_self

theorem objects_source?_subset : ∀ {v u : Value} {s : Segment}, v.source? s = some u →
    u.objects ⊆ v.objects
  | oddKey _ v, _, _, h => objects_source?_subset (v := v) h
  | list items, u, .item index, h => by
    have hmem : u ∈ items := List.mem_of_getElem? h
    exact fun ms hms => mem_objectsOfItems.2 ⟨u, hmem, hms⟩
  | object ns, u, .field name, h => by
    obtain ⟨n, hlast, rfl⟩ := Option.map_eq_some_iff.1 h
    have hmem : n ∈ ns :=
      (List.mem_filter.1 (List.mem_filter.1 (List.mem_of_getLast? hlast)).1).1
    exact fun ms hms => List.mem_cons_of_mem _ (mem_objectsOfMembers.2 ⟨n, hmem, hms⟩)

theorem objects_origin?_subset {v u : Value} {path : List Segment} (h : v.origin? path = some u) :
    u.objects ⊆ v.objects := by
  induction path generalizing v with
  | nil =>
    cases h
    exact List.Subset.refl _
  | cons s path ih =>
    obtain ⟨t, ht, hu⟩ := Option.bind_eq_some_iff.1 h
    exact fun ms hms => objects_source?_subset ht (ih hu hms)

/-- No object that the cleaned value shows comes from one with two names that meet. -/
def OriginsApart (v : Value) : Prop :=
  ∀ path u ms, v.origin? path = some u → u.members? = some ms → (cleanNames ms).Nodup

theorem OriginsApart.source? {v u : Value} {s : Segment} (h : v.OriginsApart)
    (hu : v.source? s = some u) : u.OriginsApart := by
  intro path t ms ht
  refine h (s :: path) t ms ?_
  rw [origin?, follow, hu]
  exact ht

theorem OriginsApart.of_oddKey {key v : Value} (h : (oddKey key v).OriginsApart) :
    v.OriginsApart := by
  intro path u ms hu hms
  cases path with
  | nil =>
    cases hu
    exact h [] (oddKey key v) ms rfl hms
  | cons s path => exact h (s :: path) u ms hu hms

theorem source?_of_mem_present {ms : List (String × Value)} {m : String × Value}
    (hnames : (cleanNames ms).Nodup) (hm : m ∈ present ms) :
    (object ms).source? (.field (camel m.1)) = some m.2 := by
  let pairs := (present ms).map fun m => (camel m.1, m.2)
  have hkeys : (pairs.map Prod.fst).Nodup := by rwa [List.map_map]
  have hmem : (camel m.1, m.2) ∈ pairs := List.mem_map.2 ⟨m, hm, rfl⟩
  have hlast := Assoc.lookup_ofPairs pairs (camel m.1)
  rw [Assoc.ofPairs_of_nodup hkeys, Assoc.lookup_of_mem hkeys hmem, List.filter_map,
    List.getLast?_map, Option.map_map] at hlast
  exact hlast.symm

/-- Where all names stay apart, every object is the origin of one. -/
theorem OriginsApart.nodup : ∀ {v : Value}, v.OriginsApart →
    ∀ ms ∈ v.objects, (cleanNames ms).Nodup
  | oddKey _ v, h, ms, hms => OriginsApart.nodup (v := v) h.of_oddKey ms hms
  | list items, h, ms, hms => by
    obtain ⟨u, hu, hmem⟩ := mem_objectsOfItems.1 hms
    obtain ⟨index, hindex⟩ := List.mem_iff_getElem?.1 hu
    exact OriginsApart.nodup (h.source? (s := .item index) hindex) ms hmem
  | object ns, h, ms, hms => by
    have hnames : (cleanNames ns).Nodup := h [] _ ns rfl rfl
    rcases List.mem_cons.1 hms with rfl | hms
    · exact hnames
    · -- The names of this object stay apart, so the member is an origin itself.
      obtain ⟨n, hn, hmem⟩ := mem_objectsOfMembers.1 hms
      have hgiven : n.2.isNull = false := by
        cases hnull : n.2.isNull with
        | false => rfl
        | true => simp [objects_of_isNull hnull] at hmem
      have hpresent : n ∈ present ns := List.mem_filter.2 ⟨hn, by simp [hgiven]⟩
      have hlt : sizeOf n.2 < sizeOf ns := by
        have hmember := List.sizeOf_lt_of_mem hn
        rw [Prod.mk.sizeOf_spec] at hmember
        omega
      exact OriginsApart.nodup (h.source? (source?_of_mem_present hnames hpresent)) ms hmem
termination_by v => sizeOf v

theorem originsApart_iff {v : Value} :
    v.OriginsApart ↔ ∀ ms ∈ v.objects, (cleanNames ms).Nodup :=
  ⟨OriginsApart.nodup, fun h _ _ _ hu hms =>
    h _ (objects_origin?_subset hu (mem_objects_of_members? hms))⟩

theorem length_dedup_cleanNames_iff {ms : List (String × Value)} :
    (cleanNames ms).dedup.length = (present ms).length ↔ (cleanNames ms).Nodup := by
  have hlength : (cleanNames ms).length = (present ms).length := List.length_map _
  rw [← hlength, ← List.dedup_eq_self]
  exact ⟨(List.dedup_sublist _).eq_of_length, congrArg List.length⟩

/-- A member of the cleaned object whose name no other gets: it is there unless it was
null. -/
theorem get?_clean_of_mem {ms : List (String × Value)} {key : String} {v : Value}
    (hnames : ((ms.map Prod.fst).map camel).Nodup) (hmem : (key, v) ∈ ms)
    (hkey : camel key = key) :
    (object ms).clean.get? key = if v.isNull then none else some v.clean := by
  cases hnull : v.isNull with
  | false => exact get?_clean_object hnames hmem hnull hkey
  | true =>
    have hnone : (present ms).filter (camel ·.1 == key) = [] := by
      refine List.filter_eq_nil_iff.2 fun n hn hname => ?_
      obtain ⟨hn, hgiven⟩ := List.mem_filter.1 hn
      rw [List.map_map] at hnames
      have hsame : n = (key, v) :=
        List.inj_on_of_nodup_map hnames hn hmem ((eq_of_beq hname).trans hkey.symm)
      simp [hsame, hnull] at hgiven
    have hclean := child?_clean (object ms) (.field key)
    rw [source?, hnone] at hclean
    exact hclean

end Value

end DocComment
