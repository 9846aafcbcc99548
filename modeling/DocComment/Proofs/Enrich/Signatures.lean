import DocComment.Proofs.Enrich.Absorb

/-! The signatures that overloads leave behind. A path tells for each level of nesting
which of the facts there to enter, so paths in lexicographic order go through the facts
from left to right and into each before the next. The signatures are met in that
order, and the first one with a text that is not recorded yet is recorded. -/

namespace DocComment

namespace Fact

/-- The facts right inside a fact. -/
def inner : Fact → List Fact
  | wrap _ _ f => [f]
  | combo _ _ types => types
  | _ => []

/-- The call signature that a fact is by itself. -/
def signature? : Fact → Option Callable
  | callable .functionType c => some c
  | callable .declaredFunction c => some c
  | callable .declaredMethod c => some c
  | _ => none

/-- The signature at the end of a path. -/
def signatureAt? : List Fact → List Nat → Option Callable
  | _, [] => none
  | facts, [i] => facts[i]?.bind signature?
  | facts, i :: path => facts[i]?.bind fun f => signatureAt? f.inner path

/-- All signatures at or inside some facts, each with its path, in the order of the
paths. -/
structure MetInOrder (facts : List Fact) (met : List (List Nat × Callable)) : Prop where
  order : met.Pairwise fun x y => x.1 < y.1
  mem_iff : ∀ path c, (path, c) ∈ met ↔ signatureAt? facts path = some c

theorem signatures_eq (f : Fact) : f.signatures = f.signature?.toList ++ signaturesOf f.inner := by
  cases f with
  | callable form c => cases form <;> simp [signatures, signature?, inner, signaturesOf]
  | wrap form string f => simp [signatures, signature?, inner, signaturesOf]
  | combo form string types => simp [signatures, signature?, inner]
  | _ => simp [signatures, signature?, inner, signaturesOf]

theorem signatureAt?_nil (facts : List Fact) : signatureAt? facts [] = none := by
  simp [signatureAt?]

theorem signatureAt?_zero (f : Fact) (rest : List Fact) (path : List Nat) :
    signatureAt? (f :: rest) (0 :: path) =
      if path = [] then f.signature? else signatureAt? f.inner path := by
  cases path <;> simp [signatureAt?]

theorem signatureAt?_succ (f : Fact) (rest : List Fact) (i : Nat) (path : List Nat) :
    signatureAt? (f :: rest) ((i + 1) :: path) = signatureAt? rest (i :: path) := by
  cases path <;> simp [signatureAt?]

theorem ne_nil_of_signatureAt? {facts : List Fact} {path : List Nat} {c : Callable}
    (h : signatureAt? facts path = some c) : path ≠ [] := by
  rintro rfl
  simp [signatureAt?_nil] at h

theorem modifyHead_lt {path other : List Nat} (h : path < other) :
    path.modifyHead (· + 1) < other.modifyHead (· + 1) := by
  cases other with
  | nil => simp at h
  | cons j other =>
    cases path with
    | nil => exact List.nil_lt_cons _ _
    | cons i path => simpa [List.cons_lt_cons_iff] using h

/-- The signatures of a list of facts: the first fact by itself, what is inside it, and
what the other facts have. -/
def metFirst (f : Fact) (inside later : List (List Nat × Callable)) :
    List (List Nat × Callable) :=
  f.signature?.toList.map (fun c => ([0], c)) ++
    (inside.map (fun x => (0 :: x.1, x.2)) ++ later.map fun x => (x.1.modifyHead (· + 1), x.2))

theorem mem_map_path {move : List Nat → List Nat} {met : List (List Nat × Callable)}
    {path : List Nat} {c : Callable} :
    (path, c) ∈ met.map (fun x => (move x.1, x.2)) ↔ ∃ p, path = move p ∧ (p, c) ∈ met := by
  simp only [List.mem_map, Prod.mk.injEq, Prod.exists]
  constructor
  · rintro ⟨p, d, hd, rfl, rfl⟩
    exact ⟨p, rfl, hd⟩
  · rintro ⟨p, rfl, hc⟩
    exact ⟨p, c, hc, rfl, rfl⟩

theorem mem_metFirst {f : Fact} {inside later : List (List Nat × Callable)} {path : List Nat}
    {c : Callable} :
    (path, c) ∈ metFirst f inside later ↔
      (path = [0] ∧ f.signature? = some c) ∨ (∃ p, path = 0 :: p ∧ (p, c) ∈ inside) ∨
        ∃ p, path = p.modifyHead (· + 1) ∧ (p, c) ∈ later := by
  have hown : (path, c) ∈ f.signature?.toList.map (fun c => ([0], c)) ↔
      path = [0] ∧ f.signature? = some c := by
    cases f.signature? <;> simp [eq_comm]
  rw [metFirst, List.mem_append, List.mem_append, hown, mem_map_path, mem_map_path]

section Cons

variable {f : Fact} {rest : List Fact} {inside later : List (List Nat × Callable)}
  (hinside : MetInOrder f.inner inside) (hlater : MetInOrder rest later)

include hinside hlater

theorem pairwise_metFirst : (metFirst f inside later).Pairwise fun x y => x.1 < y.1 := by
  have hown : (f.signature?.toList.map fun c => ([0], c)).Pairwise fun x y => x.1 < y.1 := by
    cases f.signature? <;> simp
  have hbelow : (inside.map fun x => (0 :: x.1, x.2)).Pairwise fun x y => x.1 < y.1 := by
    rw [List.pairwise_map]
    exact hinside.order.imp fun h => List.cons_lt_cons_iff.mpr (.inr ⟨rfl, h⟩)
  have hbehind : (later.map fun x => (x.1.modifyHead (· + 1), x.2)).Pairwise
      fun x y => x.1 < y.1 := by
    rw [List.pairwise_map]
    exact hlater.order.imp modifyHead_lt
  -- every other path that begins with 0 goes on from there, and the rest begin higher
  have hfirst : ∀ x ∈ inside, [0] < 0 :: x.1 := by
    rintro ⟨path, c⟩ hx
    obtain ⟨i, path, rfl⟩ :=
      List.exists_cons_of_ne_nil (ne_nil_of_signatureAt? ((hinside.mem_iff path c).mp hx))
    exact List.cons_lt_cons_iff.mpr (.inr ⟨rfl, List.nil_lt_cons _ _⟩)
  have hhigher : ∀ x ∈ later, ∀ path, 0 :: path < x.1.modifyHead (· + 1) := by
    rintro ⟨other, c⟩ hx path
    obtain ⟨i, other, rfl⟩ :=
      List.exists_cons_of_ne_nil (ne_nil_of_signatureAt? ((hlater.mem_iff other c).mp hx))
    exact List.cons_lt_cons_iff.mpr (.inl (Nat.succ_pos i))
  refine List.pairwise_append.mpr ⟨hown, List.pairwise_append.mpr ⟨hbelow, hbehind, ?_⟩, ?_⟩
  · simp only [List.mem_map]
    rintro _ ⟨x, -, rfl⟩ _ ⟨y, hy, rfl⟩
    exact hhigher y hy x.1
  · simp only [List.mem_append, List.mem_map]
    rintro _ ⟨c, -, rfl⟩ _ (⟨y, hy, rfl⟩ | ⟨y, hy, rfl⟩)
    · exact hfirst y hy
    · exact hhigher y hy []

theorem mem_metFirst_iff (path : List Nat) (c : Callable) :
    (path, c) ∈ metFirst f inside later ↔ signatureAt? (f :: rest) path = some c := by
  rw [mem_metFirst]
  simp only [hinside.mem_iff, hlater.mem_iff]
  rcases path with _ | ⟨_ | i, path⟩
  · simp [signatureAt?_nil]
  · have hlow : ∀ p : List Nat, 0 :: path ≠ p.modifyHead (· + 1) := by
      intro p
      cases p <;> simp
    rw [signatureAt?_zero]
    simp only [hlow, false_and, exists_false, or_false]
    by_cases hpath : path = [] <;> simp [hpath, signatureAt?_nil]
  · have hhigh : ∀ p : List Nat, (i + 1) :: path = p.modifyHead (· + 1) ↔ i :: path = p := by
      intro p
      cases p <;> simp
    rw [signatureAt?_succ]
    simp [hhigh]

theorem metInOrder_metFirst : MetInOrder (f :: rest) (metFirst f inside later) :=
  ⟨pairwise_metFirst hinside hlater, mem_metFirst_iff hinside hlater⟩

end Cons

theorem sizeOf_inner_lt (f : Fact) (rest : List Fact) : sizeOf f.inner < sizeOf (f :: rest) := by
  have hrest : 0 < sizeOf rest := by
    cases rest with
    | nil => simp
    | cons next rest =>
      rw [List.cons.sizeOf_spec]
      omega
  cases f <;> simp [inner] <;> omega

/-- The signatures that are merged are met in the order of their paths. -/
theorem exists_metInOrder (facts : List Fact) :
    ∃ met, MetInOrder facts met ∧ met.map Prod.snd = signaturesOf facts := by
  match facts with
  | [] =>
    have hnone : ∀ path, signatureAt? [] path = none := by
      rintro (_ | ⟨i, _ | ⟨j, path⟩⟩) <;> simp [signatureAt?]
    exact ⟨[], ⟨List.Pairwise.nil, by simp [hnone]⟩, by simp [signaturesOf]⟩
  | f :: rest =>
    obtain ⟨inside, hinside, hcalls⟩ := exists_metInOrder f.inner
    obtain ⟨later, hlater, hmore⟩ := exists_metInOrder rest
    refine ⟨metFirst f inside later, metInOrder_metFirst hinside hlater, ?_⟩
    rw [signaturesOf, signatures_eq, ← hcalls, ← hmore]
    simp [metFirst, Function.comp_def]
termination_by sizeOf facts
decreasing_by
  · exact sizeOf_inner_lt f rest
  · simp only [List.cons.sizeOf_spec]
    omega

end Fact

namespace Doclet

/-- The entry for a signature, with a parameter for each that it declares. -/
def signatureEntry (c : Callable) : Signature where
  string := c.string
  typeParams := c.typeParams
  returnType := c.returnType
  parameters := c.parameters.map fun p => signatureParam p.declared

/-- The first call signature with each text, but none with a text that is there already. -/
def firstOfEach (signatures : List Signature) (calls : List Callable) : List Callable :=
  (calls.filter fun c => !signatures.any (·.string == c.string)).eraseDupsBy
    fun a b => a.string == b.string

theorem recordSignature_of_any {c : Callable} {signatures : List Signature}
    (h : signatures.any (·.string == c.string) = true) :
    recordSignature c signatures = signatures := by
  rw [recordSignature, if_pos h]

theorem recordSignature_of_not_any {c : Callable} {signatures : List Signature}
    (h : signatures.any (·.string == c.string) = false) :
    recordSignature c signatures = signatures ++ [signatureEntry c] := by
  rw [recordSignature, if_neg (by simp [h])]
  rfl

theorem firstOfEach_cons_of_any {c : Callable} {signatures : List Signature}
    (h : signatures.any (·.string == c.string) = true) (calls : List Callable) :
    firstOfEach signatures (c :: calls) = firstOfEach signatures calls := by
  rw [firstOfEach, List.filter_cons_of_neg (by simp [h]), firstOfEach]

/-- A signature that was taken counts as there from then on. -/
theorem firstOfEach_cons_of_not_any {c : Callable} {signatures : List Signature}
    (h : signatures.any (·.string == c.string) = false) (calls : List Callable) :
    firstOfEach signatures (c :: calls) =
      c :: firstOfEach (signatures ++ [signatureEntry c]) calls := by
  rw [firstOfEach, List.filter_cons_of_pos (by simp [h]), List.eraseDupsBy_cons,
    List.filter_filter, firstOfEach]
  congr 2
  refine List.filter_congr fun other _ => ?_
  have hentry : (signatureEntry c).string = c.string := rfl
  by_cases hsame : other.string = c.string
  · simp [hentry, hsame]
  · simp [hentry, hsame, Ne.symm hsame]

theorem foldl_recordSignature (calls : List Callable) (signatures : List Signature) :
    calls.foldl (fun signatures c => recordSignature c signatures) signatures =
      signatures ++ (firstOfEach signatures calls).map signatureEntry := by
  induction calls generalizing signatures with
  | nil => simp [firstOfEach]
  | cons c calls ih =>
    rw [List.foldl_cons, ih]
    cases h : signatures.any (·.string == c.string) with
    | true => rw [recordSignature_of_any h, firstOfEach_cons_of_any h]
    | false =>
      rw [recordSignature_of_not_any h, firstOfEach_cons_of_not_any h, List.map_cons,
        List.append_assoc, List.singleton_append]

theorem signatures_foldl_mergeSignature (settings : Settings) (settled : Bool)
    (calls : List Callable) (d : Doclet) :
    (calls.foldl (mergeSignature settings settled) d).signatures.getD [] =
      calls.foldl (fun signatures c => recordSignature c signatures) (d.signatures.getD []) := by
  induction calls generalizing d with
  | nil => rfl
  | cons c calls ih => exact ih (mergeSignature settings settled d c)

/-- Every distinct signature is recorded once and in order: after the entries that were
there come those for the signatures among the facts, in the order in which they are met,
one for the first with each text that is new. An entry has the parameters that its
signature declares, in their order. -/
theorem reconcileOverloads_signatures (settings : Settings) (d : Doclet) :
    ∃ met, Fact.MetInOrder d.facts met ∧
      let before := d.signatures.getD []
      let taken := firstOfEach before (met.map Prod.snd)
      (d.reconcileOverloads settings).signatures.getD [] = before ++ taken.map signatureEntry ∧
        ∀ c ∈ taken, (signatureEntry c).parameters.map (·.name) =
          c.parameters.map fun p => some p.declared.id := by
  obtain ⟨met, hmet, hcalls⟩ := Fact.exists_metInOrder d.facts
  refine ⟨met, hmet, ?_, fun c _ => ?_⟩
  · rw [hcalls, (lists_reconcileOverloads settings d).2.2, signatures_foldl_mergeSignature,
      foldl_recordSignature]
    rfl
  · simp [signatureEntry, signatureParam]

/-- Signatures in a union inside an annotation, one of which comes again, and one of which
is recorded already. -/
example :
    let call (string : String) : Fact := .callable .functionType { string }
    let d : Doclet :=
      { signatures := some [{ string := "b", typeParams := {}, returnType := {}, parameters := [] }]
        place :=
          { facts := some [.wrap .annotated "" (.combo .union "" [call "c", call "b"]), call "a",
              .wrap .parenthesized "" (call "c")] } }
    ((d.reconcileOverloads {}).signatures.getD []).map (·.string) = ["b", "c", "a"] := by
  decide +kernel

end Doclet

end DocComment
