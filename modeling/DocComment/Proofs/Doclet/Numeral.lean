import DocComment.Doclet.Tagging

/-! The number that a sort tag begins with: a run of digits, after any blanks and
perhaps a sign. Nothing but the length of the run can keep it from being read. -/

namespace DocComment

namespace Text

/-- The text begins, after blanks and perhaps a sign, with more digits than can be
read. -/
def BeginsOverlong (s : List Char) : Prop :=
  ∃ blanks sign digits rest, s = blanks ++ (sign ++ (digits ++ rest)) ∧
    (∀ c ∈ blanks, isBlank c = true) ∧ sign ∈ [[], ['+'], ['-']] ∧
    (∀ c ∈ digits, (digit? c).isSome = true) ∧ maxNumeral < digits.length

theorem toNat_of_digit {c : Char} (h : (digit? c).isSome = true) :
    0x30 ≤ c.toNat ∧ isBlank c = false := by
  have htable : ∀ z ∈ zeroDigits, 0x30 ≤ z ∧ (z + 10 ≤ 0x85 ∨ 0xA0 < z) ∧
      (z + 10 ≤ 0x1680 ∨ 0x1680 < z) ∧ (z + 10 ≤ 0x2000 ∨ 0x3000 < z) := by
    decide
  simp only [digit?, Option.isSome_map, List.find?_isSome, Bool.and_eq_true, decide_eq_true_eq] at h
  obtain ⟨z, hz, hlow, hhigh⟩ := h
  obtain ⟨hzero, hlatin, hogham, hspaces⟩ := htable z hz
  refine ⟨Nat.le_trans hzero hlow, ?_⟩
  simp only [isBlank, Bool.or_eq_false_iff, Bool.and_eq_false_iff, decide_eq_false_iff_not,
    beq_eq_false_iff_ne]
  omega

theorem not_isBlank_of_digit {c : Char} (h : (digit? c).isSome = true) : isBlank c = false :=
  (toNat_of_digit h).2

theorem not_sign_of_digit {c : Char} (h : (digit? c).isSome = true) : c ≠ '+' ∧ c ≠ '-' := by
  have hlow := (toNat_of_digit h).1
  constructor
  · rintro rfl
    exact absurd hlow (by decide)
  · rintro rfl
    exact absurd hlow (by decide)

theorem dropEnd_append {p : Char → Bool} {s : List Char} {c : Char} (hlast : s.getLast? = some c)
    (hc : p c = false) (rest : List Char) : dropEnd p (s ++ rest) = s ++ dropEnd p rest := by
  have hstays : s.reverse.dropWhile p = s.reverse := by
    obtain ⟨front, rfl⟩ := List.getLast?_eq_some_iff.1 hlast
    simp [hc]
  unfold dropEnd
  rw [List.reverse_append, List.dropWhile_append]
  split
  next hnone =>
    rw [hstays, List.reverse_reverse, List.isEmpty_iff.1 hnone]
    simp
  next => simp

theorem exists_trim (s : List Char) :
    ∃ before after, s = before ++ (trim s ++ after) ∧ (∀ c ∈ before, isBlank c = true) ∧
      ∀ c ∈ after, isBlank c = true := by
  have hright : trimLeft s = trim s ++ ((trimLeft s).reverse.takeWhile isBlank).reverse := by
    rw [trim, trimRight, dropEnd, ← List.reverse_append, List.takeWhile_append_dropWhile,
      List.reverse_reverse]
  refine ⟨s.takeWhile isBlank, ((trimLeft s).reverse.takeWhile isBlank).reverse, ?_, ?_, ?_⟩
  · rw [← hright, trimLeft, List.takeWhile_append_dropWhile]
  · exact fun c hc => List.all_eq_true.1 List.all_takeWhile c hc
  · exact fun c hc => List.all_eq_true.1 List.all_takeWhile c (List.mem_reverse.1 hc)

theorem trim_eq_nil_iff {s : List Char} : trim s = [] ↔ ∀ c ∈ s, isBlank c = true := by
  constructor
  · intro h
    obtain ⟨before, after, hs, hbefore, hafter⟩ := exists_trim s
    rw [h, List.nil_append] at hs
    rw [hs]
    exact fun c hc => (List.mem_append.1 hc).elim (hbefore c) (hafter c)
  · intro h
    have hleft : (s ++ []).dropWhile isBlank = [] := List.dropWhile_append_of_pos h
    rw [List.append_nil] at hleft
    rw [trim, trimLeft, hleft]
    rfl

/-- A sign and digits begin with no blank, and end with none. -/
theorem trim_signed {sign digits : List Char} (hsign : sign ∈ [[], ['+'], ['-']])
    (hdigits : ∀ c ∈ digits, (digit? c).isSome = true) (hne : digits ≠ []) (rest : List Char) :
    trimLeft (sign ++ (digits ++ rest)) = sign ++ (digits ++ rest) ∧
      trimRight (sign ++ (digits ++ rest)) = sign ++ (digits ++ trimRight rest) := by
  constructor
  · obtain ⟨d, ds, rfl⟩ := List.exists_cons_of_ne_nil hne
    have hd := not_isBlank_of_digit (hdigits d List.mem_cons_self)
    simp only [List.mem_cons, List.not_mem_nil, or_false] at hsign
    rcases hsign with rfl | rfl | rfl
    · simp [trimLeft, hd]
    · rfl
    · rfl
  · have hlast : (sign ++ digits).getLast? = some (digits.getLast hne) := by
      rw [List.getLast?_append, List.getLast?_eq_some_getLast hne, Option.some_or]
    have hblank := not_isBlank_of_digit (hdigits _ (List.getLast_mem hne))
    have hdrop := dropEnd_append hlast hblank rest
    rwa [List.append_assoc, List.append_assoc] at hdrop

theorem ne_nil_of_overlong {digits : List Char} (h : maxNumeral < digits.length) : digits ≠ [] :=
  List.ne_nil_of_length_pos (Nat.zero_lt_of_lt h)

theorem beginsOverlong_trim (s : List Char) : BeginsOverlong (trim s) ↔ BeginsOverlong s := by
  constructor
  · rintro ⟨blanks, sign, digits, rest, hs, hblanks, hsign, hdigits, hlong⟩
    obtain ⟨before, after, hsplit, hbefore, -⟩ := exists_trim s
    refine ⟨before ++ blanks, sign, digits, rest ++ after, ?_, ?_, hsign, hdigits, hlong⟩
    · rw [hs] at hsplit
      simpa using hsplit
    · exact fun c hc => (List.mem_append.1 hc).elim (hbefore c) (hblanks c)
  · rintro ⟨blanks, sign, digits, rest, rfl, hblanks, hsign, hdigits, hlong⟩
    obtain ⟨hleft, hright⟩ := trim_signed hsign hdigits (ne_nil_of_overlong hlong) rest
    refine ⟨[], sign, digits, trimRight rest, ?_, by simp, hsign, hdigits, hlong⟩
    rw [trim, trimLeft, List.dropWhile_append_of_pos hblanks]
    rw [trimLeft] at hleft
    rw [hleft, hright, List.nil_append]

end Text

namespace Doclet

open Text

/-- What follows a sign, if there is one. -/
def unsigned : List Char → List Char
  | '-' :: rest => rest
  | '+' :: rest => rest
  | s => s

theorem exists_sign (s : List Char) :
    ∃ sign, sign ∈ [[], ['+'], ['-']] ∧ s = sign ++ unsigned s := by
  unfold unsigned
  split
  · exact ⟨['-'], by simp, rfl⟩
  · exact ⟨['+'], by simp, rfl⟩
  · exact ⟨[], by simp, rfl⟩

theorem unsigned_signed {sign digits : List Char} (hsign : sign ∈ [[], ['+'], ['-']])
    (hdigits : ∀ c ∈ digits, (digit? c).isSome = true) (hne : digits ≠ []) {rest : List Char} :
    unsigned (sign ++ (digits ++ rest)) = digits ++ rest := by
  simp only [List.mem_cons, List.not_mem_nil, or_false] at hsign
  rcases hsign with rfl | rfl | rfl
  · obtain ⟨d, ds, rfl⟩ := List.exists_cons_of_ne_nil hne
    obtain ⟨hplus, hminus⟩ := not_sign_of_digit (hdigits d List.mem_cons_self)
    simp [unsigned, hplus, hminus]
  · rfl
  · rfl

/-- The run of digits that a number begins with. -/
def numeral (s : List Char) : List Char :=
  (unsigned (trimLeft s)).takeWhile fun c => (digit? c).isSome

theorem length_filterMap_digit? {s : List Char} (h : ∀ c ∈ s, (digit? c).isSome = true) :
    (s.filterMap digit?).length = s.length := by
  rw [List.length_filterMap_eq_countP]
  exact List.countP_eq_length.2 h

theorem leadingInt?_eq (s : List Char) :
    ∃ n, leadingInt? s = if (numeral s).length = 0 then none else some (n, (numeral s).length) := by
  have hdigits : ∃ n, leadingInt? s =
      let digits := (numeral s).filterMap digit?
      if digits.isEmpty then none else some (n, digits.length) := by
    unfold leadingInt? numeral
    dsimp only
    split
    next rest hminus =>
      rw [hminus]
      exact ⟨_, rfl⟩
    next rest hplus =>
      rw [hplus]
      exact ⟨_, rfl⟩
    next rest hminus hplus =>
      rw [unsigned.eq_3 _ hminus hplus]
      exact ⟨_, rfl⟩
  have hlength : ((numeral s).filterMap digit?).length = (numeral s).length :=
    length_filterMap_digit? fun c hc => List.all_eq_true.1 List.all_takeWhile c hc
  obtain ⟨n, hn⟩ := hdigits
  refine ⟨n, ?_⟩
  simpa [← List.length_eq_zero_iff, hlength] using hn

theorem leadingInt?_overlong_iff (s : List Char) :
    (∃ n count, leadingInt? s = some (n, count) ∧ maxNumeral < count) ↔ BeginsOverlong s := by
  obtain ⟨n, hint⟩ := leadingInt?_eq s
  have hcount : (∃ n count, leadingInt? s = some (n, count) ∧ maxNumeral < count) ↔
      maxNumeral < (numeral s).length := by
    rw [hint]
    constructor
    · rintro ⟨m, count, hsome, hlong⟩
      split at hsome
      · cases hsome
      · cases hsome
        exact hlong
    · intro hlong
      exact ⟨n, _, if_neg (Nat.ne_of_gt (Nat.zero_lt_of_lt hlong)), hlong⟩
  rw [hcount]
  constructor
  · intro hlong
    obtain ⟨sign, hsign, hsplit⟩ := exists_sign (trimLeft s)
    refine ⟨s.takeWhile isBlank, sign, numeral s, (unsigned (trimLeft s)).dropWhile
      fun c => (digit? c).isSome, ?_, ?_, hsign, ?_, hlong⟩
    · rw [numeral, List.takeWhile_append_dropWhile, ← hsplit, trimLeft,
        List.takeWhile_append_dropWhile]
    · exact fun c hc => List.all_eq_true.1 List.all_takeWhile c hc
    · exact fun c hc => List.all_eq_true.1 List.all_takeWhile c hc
  · rintro ⟨blanks, sign, digits, rest, rfl, hblanks, hsign, hdigits, hlong⟩
    have hne := ne_nil_of_overlong hlong
    have htrim : trimLeft (blanks ++ (sign ++ (digits ++ rest))) = sign ++ (digits ++ rest) := by
      rw [trimLeft, List.dropWhile_append_of_pos hblanks]
      exact (trim_signed hsign hdigits hne rest).1
    rw [numeral, htrim, unsigned_signed hsign hdigits hne, List.takeWhile_append_of_pos hdigits,
      List.length_append]
    exact Nat.lt_add_right _ hlong

end Doclet

end DocComment
