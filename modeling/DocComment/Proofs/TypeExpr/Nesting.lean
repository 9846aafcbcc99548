import DocComment.TypeExpr

/-! Brackets that come in pairs. In a properly nested text every bracket that opens is
closed by one of its own kind, one pair inside another or behind it. Two scans rely on
that: the one for the partner of a bracket counts a single kind, the one for the pipes
of a union counts all four together. -/

namespace DocComment.TypeExpr

/-- A kind of brackets. -/
inductive Bracket where
  | round
  | angle
  | curly
  | square
  deriving DecidableEq, Repr

namespace Bracket

def all : List Bracket := [.round, .angle, .curly, .square]

def opening : Bracket → Char
  | .round => '('
  | .angle => '<'
  | .curly => '\x7b'
  | .square => '['

def closing : Bracket → Char
  | .round => ')'
  | .angle => '>'
  | .curly => '\x7d'
  | .square => ']'

theorem mem_all (b : Bracket) : b ∈ all := by
  cases b <;> decide

theorem opening_ne_closing (a b : Bracket) : a.opening ≠ b.closing := by
  cases a <;> cases b <;> decide

theorem opening_injective {a b : Bracket} (h : a.opening = b.opening) : a = b := by
  cases a <;> cases b <;> first | rfl | exact absurd h (by decide)

theorem closing_injective {a b : Bracket} (h : a.closing = b.closing) : a = b := by
  cases a <;> cases b <;> first | rfl | exact absurd h (by decide)

end Bracket

/-- Brackets of the given kinds come in pairs; those of other kinds are mere characters. -/
inductive Nested (kinds : List Bracket) : List Char → Prop
  | nil : Nested kinds []
  | plain {c : Char} {s : List Char} (hc : ∀ b ∈ kinds, c ≠ b.opening ∧ c ≠ b.closing)
      (hs : Nested kinds s) : Nested kinds (c :: s)
  | pair {b : Bracket} {inside s : List Char} (hb : b ∈ kinds) (hinside : Nested kinds inside)
      (hs : Nested kinds s) : Nested kinds (b.opening :: (inside ++ b.closing :: s))

/-- The number of brackets that are open after a text, all kinds counted together. -/
def balance : List Char → Int
  | [] => 0
  | c :: s => bracketStep c + balance s

@[simp] theorem balance_nil : balance [] = 0 := rfl

@[simp] theorem balance_cons (c : Char) (s : List Char) :
    balance (c :: s) = bracketStep c + balance s := rfl

@[simp] theorem balance_append (s t : List Char) :
    balance (s ++ t) = balance s + balance t := by
  induction s with
  | nil => simp
  | cons c s ih => rw [List.cons_append, balance_cons, balance_cons, ih, Int.add_assoc]

@[simp] theorem bracketStep_opening (b : Bracket) : bracketStep b.opening = 1 := by
  cases b <;> decide

@[simp] theorem bracketStep_closing (b : Bracket) : bracketStep b.closing = -1 := by
  cases b <;> decide

theorem bracketStep_plain {c : Char} (hc : ∀ b ∈ Bracket.all, c ≠ b.opening ∧ c ≠ b.closing) :
    bracketStep c = 0 := by
  have hround := hc .round (by decide)
  have hangle := hc .angle (by decide)
  have hcurly := hc .curly (by decide)
  have hsquare := hc .square (by decide)
  simp only [Bracket.opening, Bracket.closing] at hround hangle hcurly hsquare
  simp [bracketStep, isOpening, isClosing, hround, hangle, hcurly, hsquare]

section SplitClose

variable {kinds : List Bracket} {b : Bracket}

theorem splitClose_plain {c : Char} (hopen : c ≠ b.opening) (hclose : c ≠ b.closing) (depth : Nat)
    (rest : List Char) :
    splitClose b.opening b.closing depth (c :: rest) =
      (splitClose b.opening b.closing depth rest).map fun parts => (c :: parts.1, parts.2) := by
  rw [splitClose.eq_def]
  simp [hopen, hclose]

theorem splitClose_opening (depth : Nat) (rest : List Char) :
    splitClose b.opening b.closing depth (b.opening :: rest) =
      (splitClose b.opening b.closing (depth + 1) rest).map
        fun parts => (b.opening :: parts.1, parts.2) := by
  rw [splitClose.eq_def]
  simp

theorem splitClose_closing (depth : Nat) (rest : List Char) :
    splitClose b.opening b.closing (depth + 1) (b.closing :: rest) =
      (splitClose b.opening b.closing depth rest).map
        fun parts => (b.closing :: parts.1, parts.2) := by
  rw [splitClose.eq_def]
  simp [(Bracket.opening_ne_closing b b).symm]

theorem splitClose_zero (rest : List Char) :
    splitClose b.opening b.closing 0 (b.closing :: rest) = some ([], rest) := by
  rw [splitClose.eq_def]
  simp [(Bracket.opening_ne_closing b b).symm]

/-- The scan for a closing bracket passes over a nested text, whatever it holds. -/
theorem Nested.splitClose_append {s : List Char} (hs : Nested kinds s) (hb : b ∈ kinds)
    (depth : Nat) (rest : List Char) :
    splitClose b.opening b.closing depth (s ++ rest) =
      (splitClose b.opening b.closing depth rest).map fun parts => (s ++ parts.1, parts.2) := by
  induction hs generalizing depth rest with
  | nil => simp
  | plain hc _ ih =>
    rw [List.cons_append, splitClose_plain (hc b hb).1 (hc b hb).2, ih, Option.map_map]
    rfl
  | @pair a inside s _ _ _ ihinside ih =>
    have hassoc : a.opening :: (inside ++ a.closing :: s) ++ rest =
        a.opening :: (inside ++ a.closing :: (s ++ rest)) := by simp
    rw [hassoc]
    by_cases hab : a = b
    · subst hab
      rw [splitClose_opening, ihinside, splitClose_closing, ih]
      simp [Function.comp_def]
    · -- a pair of another kind counts for nothing
      have hopen : a.opening ≠ b.opening := fun h => hab (Bracket.opening_injective h)
      have hclose : a.closing ≠ b.closing := fun h => hab (Bracket.closing_injective h)
      rw [splitClose_plain hopen (Bracket.opening_ne_closing a b), ihinside,
        splitClose_plain (Bracket.opening_ne_closing b a).symm hclose, ih]
      simp [Function.comp_def]

/-- So a bracket behind a nested text is the partner of the one before it. -/
theorem Nested.splitClose {s : List Char} (hs : Nested kinds s) (hb : b ∈ kinds)
    (rest : List Char) :
    TypeExpr.splitClose b.opening b.closing 0 (s ++ b.closing :: rest) = some (s, rest) := by
  rw [hs.splitClose_append hb, splitClose_zero]
  simp

end SplitClose

theorem Nested.append {kinds : List Bracket} {s t : List Char} (hs : Nested kinds s)
    (ht : Nested kinds t) : Nested kinds (s ++ t) := by
  induction hs with
  | nil => exact ht
  | plain hc _ ih => exact .plain hc ih
  | pair hb hinside _ _ ih => simpa using Nested.pair hb hinside ih

theorem Nested.balance_eq {s : List Char} (hs : Nested Bracket.all s) : balance s = 0 := by
  induction hs with
  | nil => rfl
  | plain hc _ ih => rw [balance_cons, bracketStep_plain hc, ih, Int.zero_add]
  | pair _ _ _ ihinside ih => simp [ihinside, ih]

/-- A beginning of a nested text closes no more than it opens, and is nested itself if it
closes as much. -/
theorem Nested.of_prefix {s before : List Char} (hs : Nested Bracket.all s) (h : before <+: s) :
    0 ≤ balance before ∧ (balance before = 0 → Nested Bracket.all before) := by
  induction hs generalizing before with
  | nil =>
    rw [List.prefix_nil.mp h]
    exact ⟨Int.le_refl 0, fun _ => .nil⟩
  | plain hc _ ih =>
    rcases List.prefix_cons_iff.mp h with rfl | ⟨start, rfl, hstart⟩
    · exact ⟨Int.le_refl 0, fun _ => .nil⟩
    · obtain ⟨hge, hnested⟩ := ih hstart
      rw [balance_cons, bracketStep_plain hc, Int.zero_add]
      exact ⟨hge, fun hzero => .plain hc (hnested hzero)⟩
  | @pair b inside s hb hinside _ ihinside ih =>
    rcases List.prefix_cons_iff.mp h with rfl | ⟨start, rfl, hstart⟩
    · exact ⟨Int.le_refl 0, fun _ => .nil⟩
    rw [balance_cons, bracketStep_opening]
    obtain ⟨after, hafter⟩ := hstart
    rcases List.append_eq_append_iff.mp hafter with ⟨left, hleft, -⟩ | ⟨more, rfl, hmore⟩
    · -- the bracket is still open
      have hge := (ihinside ⟨left, hleft.symm⟩).1
      exact ⟨by omega, fun hzero => by omega⟩
    rcases List.prefix_cons_iff.mp ⟨after, hmore.symm⟩ with rfl | ⟨behind, rfl, hbehind⟩
    · -- and so it is right before its partner
      have hzero := hinside.balance_eq
      rw [List.append_nil]
      exact ⟨by omega, fun h => by omega⟩
    · obtain ⟨hge, hnested⟩ := ih hbehind
      have hbalance : balance (inside ++ b.closing :: behind) = balance behind - 1 := by
        rw [balance_append, hinside.balance_eq, balance_cons, bracketStep_closing]
        omega
      rw [hbalance]
      exact ⟨by omega, fun hzero => .pair hb hinside (hnested (by omega))⟩

/-! Whether a text is nested can be told by one pass with the brackets that are open. -/

/-- Reads on with some brackets open, the innermost first, and tells whether all of them
and those to come are closed in order. -/
def closesAll (kinds : List Bracket) : List Bracket → List Char → Bool
  | pending, [] => pending.isEmpty
  | pending, c :: s =>
    match kinds.find? (·.opening == c) with
    | some b => closesAll kinds (b :: pending) s
    | none =>
      match kinds.find? (·.closing == c), pending with
      | some b, top :: pending => b == top && closesAll kinds pending s
      | some _, [] => false
      | none, pending => closesAll kinds pending s

/-- What closes the pending brackets: nested texts, with one of these brackets behind each
but the last. -/
def Closing (kinds : List Bracket) : List Bracket → List Char → Prop
  | [], s => Nested kinds s
  | b :: pending, s => ∃ inside rest, s = inside ++ b.closing :: rest ∧ Nested kinds inside ∧
      Closing kinds pending rest

section ClosesAll

variable {kinds pending : List Bracket} {s t : List Char}

theorem Closing.append (ht : Nested kinds t) (hs : Closing kinds pending s) :
    Closing kinds pending (t ++ s) := by
  cases pending with
  | nil => exact Nested.append ht hs
  | cons b pending =>
    obtain ⟨inside, rest, rfl, hinside, hrest⟩ := hs
    exact ⟨t ++ inside, rest, by simp, ht.append hinside, hrest⟩

theorem find?_bracket_eq_some {f : Bracket → Char} {c : Char} {b : Bracket}
    (h : kinds.find? (f · == c) = some b) : b ∈ kinds ∧ f b = c :=
  ⟨List.mem_of_find?_eq_some h, by simpa using List.find?_some h⟩

theorem find?_bracket_eq_none {f : Bracket → Char} {c : Char} :
    kinds.find? (f · == c) = none ↔ ∀ b ∈ kinds, c ≠ f b := by
  rw [List.find?_eq_none]
  exact forall₂_congr fun b _ => by rw [beq_iff_eq, eq_comm]

theorem find?_bracket {f : Bracket → Char} {b : Bracket} (hb : b ∈ kinds)
    (hf : ∀ {a b : Bracket}, f a = f b → a = b) : kinds.find? (f · == f b) = some b := by
  cases h : kinds.find? (f · == f b) with
  | none => exact absurd rfl (find?_bracket_eq_none.mp h b hb)
  | some a => rw [hf (find?_bracket_eq_some h).2]

theorem closesAll_plain {c : Char} (hc : ∀ b ∈ kinds, c ≠ b.opening ∧ c ≠ b.closing) :
    closesAll kinds pending (c :: s) = closesAll kinds pending s := by
  have hopen := find?_bracket_eq_none.mpr fun b hb => (hc b hb).1
  have hclose := find?_bracket_eq_none.mpr fun b hb => (hc b hb).2
  rw [closesAll.eq_def]
  simp only [hopen, hclose]

theorem closesAll_opening {b : Bracket} (hb : b ∈ kinds) :
    closesAll kinds pending (b.opening :: s) = closesAll kinds (b :: pending) s := by
  rw [closesAll.eq_def]
  simp only [find?_bracket hb Bracket.opening_injective]

theorem closesAll_closing {b : Bracket} (hb : b ∈ kinds) :
    closesAll kinds (b :: pending) (b.closing :: s) = closesAll kinds pending s := by
  have hopen : kinds.find? (·.opening == b.closing) = none :=
    find?_bracket_eq_none.mpr fun a _ => (Bracket.opening_ne_closing a b).symm
  rw [closesAll.eq_def]
  simp [hopen, find?_bracket hb Bracket.closing_injective]

theorem Nested.closesAll_append (ht : Nested kinds t) (pending : List Bracket) (s : List Char) :
    closesAll kinds pending (t ++ s) = closesAll kinds pending s := by
  induction ht generalizing pending s with
  | nil => rfl
  | plain hc _ ih => rw [List.cons_append, closesAll_plain hc, ih]
  | pair hb _ _ ihinside ih =>
    rw [List.cons_append, List.append_assoc, List.cons_append, closesAll_opening hb, ihinside,
      closesAll_closing hb, ih]

theorem closing_of_closesAll (h : closesAll kinds pending s = true) : Closing kinds pending s := by
  fun_induction closesAll kinds pending s with
  | case1 pending =>
    obtain rfl := List.isEmpty_iff.mp h
    exact Nested.nil
  | case2 pending c s b hb ih =>
    obtain ⟨hmem, rfl⟩ := find?_bracket_eq_some hb
    obtain ⟨inside, rest, rfl, hinside, hrest⟩ := ih h
    simpa using Closing.append (Nested.pair hmem hinside .nil) hrest
  | case3 c s hopen b top pending hb ih =>
    obtain ⟨hmem, rfl⟩ := find?_bracket_eq_some hb
    rw [Bool.and_eq_true, beq_iff_eq] at h
    obtain ⟨rfl, h⟩ := h
    exact ⟨[], s, rfl, .nil, ih h⟩
  | case4 => simp at h
  | case5 c s hopen pending hclose ih =>
    have hc : ∀ b ∈ kinds, c ≠ b.opening ∧ c ≠ b.closing := fun b hb =>
      ⟨find?_bracket_eq_none.mp hopen b hb, find?_bracket_eq_none.mp hclose b hb⟩
    exact Closing.append (Nested.plain hc .nil) (ih h)

theorem closesAll_iff : closesAll kinds [] s = true ↔ Nested kinds s := by
  refine ⟨closing_of_closesAll, fun h => ?_⟩
  rw [← List.append_nil s, h.closesAll_append]
  rfl

instance : Decidable (Nested kinds s) := decidable_of_iff _ closesAll_iff

end ClosesAll

end DocComment.TypeExpr
