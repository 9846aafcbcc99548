import DocComment.Data.Clean
import DocComment.Data.Decode
import DocComment.Proofs.Data.Table

/-! What plain data keeps when it is cleaned and read back. A value conveys
something when cleaning leaves the value alone and reading it gives that thing.
For a record this is shown one field after the other: each field's members,
perhaps none, take what was read so far one step on. -/

namespace DocComment

namespace Value

/-- A value that a member can have: neither null nor under a key that is no
text. -/
def isGiven : Value → Bool
  | null => false
  | oddKey _ _ => false
  | _ => true

theorem isNull_of_isGiven {v : Value} (h : v.isGiven) : v.isNull = false := by
  cases v <;> simp_all [isGiven, isNull]

/-- Names that cleaning keeps, and keeps apart. -/
def StayApart (names : List String) : Prop :=
  names.Nodup ∧ ∀ name ∈ names, camel name = name

instance (names : List String) : Decidable (StayApart names) :=
  inferInstanceAs (Decidable (_ ∧ _))

theorem StayApart.sublist {names fewer : List String} (h : StayApart names)
    (hsub : fewer.Sublist names) : StayApart fewer :=
  ⟨h.1.sublist hsub, fun name hname => h.2 name (hsub.subset hname)⟩

theorem cleanItems_eq_map (items : List Value) : cleanItems items = items.map clean := by
  induction items with
  | nil => rfl
  | cons v rest ih => rw [cleanItems, ih, List.map_cons]

theorem cleanMembers_eq_map (ms : List (String × Value)) :
    cleanMembers ms = (ms.filter (!·.2.isNull)).map fun m => (camel m.1, m.2.clean) := by
  induction ms with
  | nil => rfl
  | cons m rest ih =>
    rw [cleanMembers, ih]
    cases hnull : m.2.isNull <;> simp [hnull]

/-- Cleaning loses no member that is not null, as long as the names stay apart. -/
theorem get?_clean_object {ms : List (String × Value)} {key : String} {v : Value}
    (hnames : ((ms.map Prod.fst).map camel).Nodup) (hmem : (key, v) ∈ ms) (hv : v.isNull = false)
    (hkey : camel key = key) : (object ms).clean.get? key = some v.clean := by
  have hkeys : ((cleanMembers ms).map Prod.fst).Nodup := by
    rw [cleanMembers_eq_map, List.map_map]
    rw [List.map_map] at hnames
    exact hnames.sublist (List.filter_sublist.map _)
  have hfound : (key, v.clean) ∈ cleanMembers ms := by
    rw [cleanMembers_eq_map]
    exact List.mem_map.2 ⟨(key, v), List.mem_filter.2 ⟨hmem, by simp [hv]⟩, by rw [hkey]⟩
  rw [clean, ofMembers, Assoc.ofPairs_of_nodup hkeys]
  exact Assoc.lookup_of_mem hkeys hfound

theorem clean_object {ms : List (String × Value)} (hnames : StayApart (ms.map Prod.fst))
    (hvalues : ∀ m ∈ ms, m.2.isGiven ∧ m.2.clean = m.2) : (object ms).clean = object ms := by
  have hkept : cleanMembers ms = ms := by
    have hall : ms.filter (!·.2.isNull) = ms :=
      List.filter_eq_self.2 fun m hm => by simp [isNull_of_isGiven (hvalues m hm).1]
    have hsame : ms.map (fun m => (camel m.1, m.2.clean)) = ms.map id :=
      List.map_congr_left fun m hm => by
        rw [hnames.2 m.1 (List.mem_map_of_mem hm), (hvalues m hm).2]
        rfl
    rw [cleanMembers_eq_map, hall, hsame, List.map_id]
  rw [clean, hkept, ofMembers, Assoc.ofPairs_of_nodup hnames.1]

/-- Cleaning leaves the value alone, and reading it gives `a`. -/
structure Conveys {α : Type} (read : Value → Decode α) (v : Value) (a : α) : Prop where
  isGiven : v.isGiven
  clean : v.clean = v
  read : read v = .ok a

namespace Conveys

variable {α : Type}

theorem text (s : String) : Conveys Decode.text (.text s) s := ⟨rfl, rfl, rfl⟩

theorem text? (s : String) : Conveys Decode.text? (.text s) (some s) := ⟨rfl, rfl, rfl⟩

theorem bool (b : Bool) : Conveys Decode.bool (.bool b) b := ⟨rfl, rfl, rfl⟩

theorem items {read : Value → Decode α} {write : α → Value} {as : List α}
    (h : ∀ a ∈ as, Conveys read (write a) a) (index : Nat) :
    Decode.items read index (as.map write) = .ok as := by
  induction as generalizing index with
  | nil => rfl
  | cons a rest ih =>
    have hfirst : Decode.under (.item index) (read (write a)) = .ok a := by
      rw [(h a (List.mem_cons_self)).read]
      rfl
    have hrest := ih (fun b hb => h b (List.mem_cons_of_mem _ hb)) (index + 1)
    rw [List.map_cons, Decode.items, hfirst, hrest]
    rfl

theorem clean_list {read : Value → Decode α} {write : α → Value} {as : List α}
    (h : ∀ a ∈ as, Conveys read (write a) a) :
    (Value.list (as.map write)).clean = .list (as.map write) := by
  have hsame : (as.map write).map Value.clean = as.map write := by
    rw [List.map_map]
    exact List.map_congr_left fun a ha => (h a ha).clean
  rw [Value.clean, cleanItems_eq_map, hsame]

theorem list {read : Value → Decode α} {write : α → Value} {as : List α}
    (h : ∀ a ∈ as, Conveys read (write a) a) :
    Conveys (Decode.list read) (.list (as.map write)) as :=
  ⟨rfl, clean_list h, items h 0⟩

theorem list? {read : Value → Decode α} {write : α → Value} {as : List α}
    (h : ∀ a ∈ as, Conveys read (write a) a) :
    Conveys (Decode.list? read) (.list (as.map write)) (some as) :=
  ⟨rfl, clean_list h, by rw [Decode.list?, items h 0]; rfl⟩

end Conveys

end Value

namespace Decode

variable {β γ : Type} {read : β → String → Value → Decode β}

theorem member_of_isGiven {key : String} {v : Value} (h : v.isGiven) {r : Decode β} {b : β}
    (hr : r = .ok b) : member key v r = .ok b := by
  subst hr
  cases v with
  | null => cases h
  | oddKey _ _ => cases h
  | _ => rfl

theorem members_append (b : β) (ms ns : List (String × Value)) :
    members read b (ms ++ ns) = (members read b ms >>= fun c => members read c ns) := by
  induction ms generalizing b with
  | nil => rfl
  | cons m rest ih =>
    rw [List.cons_append, members, members]
    cases member m.1 m.2 (read b m.1 m.2) with
    | error e => rfl
    | ok c => exact ih c

/-- The members have names out of `names` in that order, cleaning leaves them
alone, and reading them takes `b` to `c`. -/
structure Advances (read : β → String → Value → Decode β) (names : List String)
    (ms : List (String × Value)) (b c : β) : Prop where
  names : (ms.map Prod.fst).Sublist names
  values : ∀ m ∈ ms, m.2.isGiven ∧ m.2.clean = m.2
  read : members read b ms = .ok c

namespace Advances

variable {names others : List String} {ms ns : List (String × Value)} {b c d : β}

theorem append (h : Advances read names ms b c) (h' : Advances read others ns c d) :
    Advances read (names ++ others) (ms ++ ns) b d where
  names := by
    rw [List.map_append]
    exact h.names.append h'.names
  values m hm := (List.mem_append.1 hm).elim (h.values m) (h'.values m)
  read := by
    rw [members_append, h.read]
    exact h'.read

theorem single {key : String} {v : Value} (hv : v.isGiven ∧ v.clean = v)
    (hread : read b key v = .ok c) : Advances read [key] [(key, v)] b c where
  names := List.Sublist.refl _
  values m hm := by
    rw [List.mem_singleton.1 hm]
    exact hv
  read := by
    rw [members, member_of_isGiven hv.1 hread]
    rfl

/-- A member that is always there; `set` puts what it holds into the record. -/
theorem given {part : Value → Decode γ} {v : Value} {x : γ} (h : Value.Conveys part v x)
    (key : String) (read : β → String → Value → Decode β) (b : β) (set : γ → β)
    (hread : ∀ v, read b key v = (part v >>= fun y => .ok (set y))) :
    Advances read [key] [(key, v)] b (set x) :=
  single ⟨h.isGiven, h.clean⟩ (by rw [hread, h.read]; rfl)

theorem clean_object (h : Advances read names ms b c) (hnames : Value.StayApart names) :
    (Value.object ms).clean = .object ms :=
  Value.clean_object (hnames.sublist h.names) h.values

theorem conveys (h : Advances read names ms b c) (hnames : Value.StayApart names) :
    Value.Conveys (object read b) (.object ms) c :=
  ⟨rfl, h.clean_object hnames, h.read⟩

theorem conveys? (h : Advances read names ms b c) (hnames : Value.StayApart names) :
    Value.Conveys (object? read b) (.object ms) (some c) :=
  ⟨rfl, h.clean_object hnames, by rw [object?, h.read]; rfl⟩

end Advances

/-- The members of one field that is `absent` when it is left out. -/
inductive Field (part : Value → Decode γ) (absent : γ) (key : String) :
    List (String × Value) → γ → Prop
  | leftOut : Field part absent key [] absent
  | given {v : Value} {x : γ} (h : Value.Conveys part v x) : Field part absent key [(key, v)] x

/-- `set` puts what the field holds into the record, everything else being as it
was read so far. -/
theorem Field.advances {part : Value → Decode γ} {absent x : γ} {key : String}
    {ms : List (String × Value)} (h : Field part absent key ms x)
    (read : β → String → Value → Decode β) (set : γ → β)
    (hread : ∀ v, read (set absent) key v = (part v >>= fun y => .ok (set y))) :
    Advances read [key] ms (set absent) (set x) := by
  cases h with
  | leftOut => exact ⟨List.nil_sublist _, by simp, rfl⟩
  | given h => exact .given h key read (set absent) set hread

end Decode

end DocComment
