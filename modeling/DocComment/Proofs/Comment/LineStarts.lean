import DocComment.Proofs.Comment.Pieces

/-! Which tags of a comment its author wrote as such. A tag is meant where an `@` is
the first visible character of its line. Two more things are read as tags: what
follows a backslash and an `@`, and an `@` by itself at the very beginning. -/

namespace DocComment.Comment

open Text

/-- The word stands right after an `@` that is the first visible character of its line. -/
def StandsFirst (s word : List Char) : Prop :=
  ∃ p, s[p]? = some '@' ∧ isIndent (s.take p) = true ∧ word <+: s.drop (p + 1)

instance (s word : List Char) : Decidable (StandsFirst s word) :=
  decidable_of_iff
    (∃ p < s.length, s[p]? = some '@' ∧ isIndent (s.take p) = true ∧ word <+: s.drop (p + 1))
    ⟨fun ⟨p, _, h⟩ => ⟨p, h⟩, fun ⟨p, h⟩ => ⟨p, (List.getElem?_eq_some_iff.mp h.1).1, h⟩⟩

/-- The tags of a comment without the description that was put before its text. -/
def ownTags (comment codeType : Option String) : List WrittenTag :=
  if withDescription (unwrap comment) codeType = unwrap comment then parse comment codeType
  else (parse comment codeType).tail

def descriptionTitle (codeType : Option String) : String :=
  if isClassType codeType then "classdesc" else "description"

/-- The text begins with an `@` before a blank or before nothing. -/
def beginsAlone (s : List Char) : Bool := s[0]? == some '@' && s[1]?.all isBlank

/-- What is read as a title without being written as one is also written as one. -/
structure KeepsToLines (s : List Char) : Prop where
  escaped : ∀ p, escapedAt s p = true → titleOf (s.drop (p + 1)) ≠ [] →
    StandsFirst s (titleOf (s.drop (p + 1)))
  alone : beginsAlone s = true → StandsFirst s ['@']

/-- The first visible character is no `@`. -/
def isProse (s : List Char) : Bool := (trimLeft s).head?.any (· != '@')

variable {s : List Char}

theorem withDescription_of_isProse {text : String} (h : isProse text.toList = true)
    (codeType : Option String) :
    (withDescription text codeType).toList =
      '@' :: ((descriptionTitle codeType).toList ++ ' ' :: text.toList) := by
  unfold withDescription
  split
  next hnil => simp [isProse, hnil] at h
  next hat => simp [isProse, hat] at h
  next => cases hc : isClassType codeType <;> simp [descriptionTitle, hc]

theorem withDescription_of_not_isProse {text : String} (h : isProse text.toList = false)
    (codeType : Option String) : withDescription text codeType = text := by
  unfold withDescription
  split
  next => rfl
  next => rfl
  next hnil hat =>
    cases ht : trimLeft text.toList with
    | nil => exact absurd ht hnil
    | cons c rest =>
      have hc : c = '@' := by simpa [isProse, ht] using h
      exact absurd (hc ▸ ht) (hat rest)

theorem withDescription_ne_self {text : String} (h : isProse text.toList = true)
    (codeType : Option String) : withDescription text codeType ≠ text := by
  intro heq
  have hlen := congrArg List.length (withDescription_of_isProse h codeType)
  rw [heq] at hlen
  simp only [List.length_cons, List.length_append] at hlen
  omega

/-- Before prose it makes no difference whether a line has just begun. -/
theorem markTags_of_isProse (h : isProse s = true) : markTags false s = markTags true s := by
  induction s with
  | nil => rfl
  | cons c rest ih =>
    cases hb : isBlank c with
    | true =>
      have hc := ne_at_of_blank hb
      have hrest : isProse rest = true := by simpa [isProse, trimLeft, hb] using h
      rw [markTags_cons (by simp), markTags_cons (by simp [hc]), hb]
      cases hline : c == '\n' <;> simp [ih hrest]
    | false =>
      have hc : c ≠ '@' := by simpa [isProse, trimLeft, hb] using h
      rw [markTags_cons (by simp), markTags_cons (by simp [hc]), hb]
      simp

theorem markTags_visible {word : List Char} (h : ∀ c ∈ word, isBlank c = false) (rest : List Char) :
    markTags false (word ++ rest) = word ++ markTags false rest := by
  induction word with
  | nil => rfl
  | cons c word ih =>
    have hc : (c == '\n') = false := by
      simpa using ne_break_of_visible (h c List.mem_cons_self)
    rw [List.cons_append, markTags_cons (by simp), hc, Bool.false_and, Bool.or_false,
      ih fun d hd => h d (List.mem_cons_of_mem c hd), List.cons_append]

theorem splitMarks_append {word m first : List Char} {more : List (List Char)}
    (h : '\\' ∉ word) (hm : splitMarks m = first :: more) :
    splitMarks (word ++ m) = (word ++ first) :: more := by
  induction word with
  | nil => exact hm
  | cons c word ih =>
    simp only [List.mem_cons, not_or] at h
    exact splitMarks_cons (fun hc => h.1 hc.1.symm) (ih h.2)

theorem descriptionTitle_spec (codeType : Option String) :
    ∃ c word, (descriptionTitle codeType).toList = c :: word ∧
      ∀ d ∈ c :: word, isBlank d = false ∧ d ≠ '\\' := by
  have hplain : ∀ word : List Char, (word.all fun d => !isBlank d && d != '\\') = true →
      ∀ d ∈ word, isBlank d = false ∧ d ≠ '\\' := by
    intro word hall d hd
    simpa using List.all_eq_true.mp hall d hd
  unfold descriptionTitle
  split
  · exact ⟨'c', "lassdesc".toList, rfl, hplain _ rfl⟩
  · exact ⟨'d', "escription".toList, rfl, hplain _ rfl⟩

theorem splitMarks_described (h : isProse s = true) (codeType : Option String) :
    splitMarks (markTags true ('@' :: ((descriptionTitle codeType).toList ++ ' ' :: s))) =
      [] :: ((descriptionTitle codeType).toList ++ ' ' :: piece s 0) ::
        (cutsFrom s 0).map fun p => piece s (p + 1) := by
  obtain ⟨c, word, hword, hspec⟩ := descriptionTitle_spec codeType
  have hpieces := splitMarks_markTags s 0 (escapedAt_zero s)
  rw [List.take_zero, isIndent_nil, List.drop_zero, ← markTags_of_isProse h] at hpieces
  have hspace : splitMarks (markTags false (' ' :: s)) =
      (' ' :: piece s 0) :: (cutsFrom s 0).map fun p => piece s (p + 1) := by
    rw [markTags_cons (by simp)]
    exact splitMarks_cons (by simp) hpieces
  have hvisible : ∀ d ∈ c :: word, isBlank d = false := fun d hd => (hspec d hd).1
  have hplain : '\\' ∉ c :: word := fun hd => (hspec _ hd).2 rfl
  rw [hword, List.cons_append, markTags_opening (hspec c List.mem_cons_self).1, splitMarks,
    ← List.cons_append, markTags_visible hvisible, splitMarks_append hplain hspace]

/-- A piece is a tag if it begins with visible characters, which are its title. -/
theorem tag?_cases (t : List Char) :
    t.takeWhile isVisible = [] ∧ tag? t = none ∨
      t.takeWhile isVisible ≠ [] ∧
        ∃ body, tag? t = some ⟨String.ofList (t.takeWhile isVisible), body⟩ := by
  have htitle : (cutWord t).1 = t.takeWhile isVisible := rfl
  by_cases h : t.takeWhile isVisible = []
  · have hempty : (cutWord t).1.isEmpty = true := by simp [htitle, h]
    exact .inl ⟨h, if_pos hempty⟩
  · have hempty : ¬ (cutWord t).1.isEmpty = true := by simpa [htitle] using h
    exact .inr ⟨h, _, if_neg hempty⟩

theorem title_of_tag? {t : List Char} {tag : WrittenTag} (h : tag? t = some tag) :
    tag.title.toList = t.takeWhile isVisible ∧ t.takeWhile isVisible ≠ [] := by
  rcases tag?_cases t with ⟨-, hnone⟩ | ⟨hne, body, htag⟩
  · simp [hnone] at h
  · obtain rfl := Option.some.inj (h.symm.trans htag)
    exact ⟨String.toList_ofList, hne⟩

theorem exists_tag? {t : List Char} (h : t.takeWhile isVisible ≠ []) :
    ∃ tag, tag? t = some tag ∧ tag.title.toList = t.takeWhile isVisible := by
  rcases tag?_cases t with ⟨hnil, -⟩ | ⟨-, body, htag⟩
  · exact absurd hnil h
  · exact ⟨_, htag, String.toList_ofList⟩

/-- The description is the first tag of prose, and the tags of the other pieces are the
comment's own. -/
theorem parse_of_isProse {comment : Option String} (h : isProse (unwrap comment).toList = true)
    (codeType : Option String) :
    ∃ body, parse comment codeType = ⟨descriptionTitle codeType, body⟩ ::
      ((cutsFrom (unwrap comment).toList 0).map
        fun p => piece (unwrap comment).toList (p + 1)).filterMap tag? := by
  obtain ⟨c, word, hword, hspec⟩ := descriptionTitle_spec codeType
  have hblank : isBlank ' ' = true := rfl
  have htitle : ((descriptionTitle codeType).toList ++
      ' ' :: piece (unwrap comment).toList 0).takeWhile isVisible =
      (descriptionTitle codeType).toList := by
    have hvisible : ∀ d ∈ (descriptionTitle codeType).toList, isVisible d = true := by
      intro d hd
      simp [(hspec d (hword ▸ hd)).1]
    rw [List.takeWhile_append_of_pos hvisible]
    simp [hblank]
  obtain ⟨tag, htag, hread⟩ := exists_tag? (t := (descriptionTitle codeType).toList ++
    ' ' :: piece (unwrap comment).toList 0) (by rw [htitle, hword]; simp)
  rw [htitle] at hread
  obtain ⟨title, body⟩ := tag
  obtain rfl : title = descriptionTitle codeType := String.toList_inj.mp hread
  refine ⟨body, ?_⟩
  have hnil : tag? [] = none := rfl
  rw [parse, tags, withDescription_of_isProse h, splitMarks_described h, List.filterMap_cons, hnil,
    List.filterMap_cons, htag]

theorem parse_of_not_isProse {comment : Option String}
    (h : isProse (unwrap comment).toList = false) (codeType : Option String) :
    parse comment codeType = (piece (unwrap comment).toList 0 ::
      (cutsFrom (unwrap comment).toList 0).map
        fun p => piece (unwrap comment).toList (p + 1)).filterMap tag? := by
  have hpieces := splitMarks_markTags (unwrap comment).toList 0 (escapedAt_zero _)
  rw [List.take_zero, isIndent_nil, List.drop_zero] at hpieces
  rw [parse, tags, withDescription_of_not_isProse h, hpieces]

/-- What stands before the first cut is read as a tag only if it is a mere `@`. -/
theorem takeWhile_lead (h : isProse s = false) :
    (piece s 0).takeWhile isVisible = if beginsAlone s then ['@'] else [] := by
  cases s with
  | nil => rfl
  | cons c rest =>
    by_cases ho : opensAt (c :: rest) 0 = true
    · have hnil := piece_of_opensAt ho (escapedAt_zero _)
      simp only [opensAt, Bool.and_eq_true, Option.any_eq_true] at ho
      obtain ⟨-, d, hd, hvisible⟩ := ho
      have hb : isBlank d = false := by simpa using hvisible
      have halone : beginsAlone (c :: rest) = false := by
        simp only [Nat.zero_add] at hd
        simp [beginsAlone, hd, hb]
      rw [hnil, halone]
      rfl
    · rw [takeWhile_piece _ 0 (by simpa using ho) (escapedAt_zero _), List.drop_zero]
      cases hb : isBlank c with
      | true =>
        simp [titleOf, hb, beginsAlone, ne_at_of_blank hb]
      | false =>
        obtain rfl : c = '@' := by simpa [isProse, trimLeft, hb] using h
        have hmark : tagMark.isPrefixOf ('@' :: rest) = false := rfl
        cases rest with
        | nil => rfl
        | cons d rest =>
          have hd : isBlank d = true := by simpa [opensAt, isIndent_nil] using ho
          simp [titleOf, hb, hmark, beginsAlone, hd]

theorem standsFirst_of_opensAt {p : Nat} (h : opensAt s p = true) :
    StandsFirst s (titleOf (s.drop (p + 1))) := by
  have hat := getElem?_of_opensAt h
  simp only [opensAt, Bool.and_eq_true] at h
  exact ⟨p, hat, h.1.2, titleOf_prefix _⟩

/-- The tags behind the cuts have the titles that stand there. -/
theorem standsFirst_cuts_iff (s : List Char) :
    (∀ tag ∈ ((cutsFrom s 0).map fun p => piece s (p + 1)).filterMap tag?,
      StandsFirst s tag.title.toList) ↔
    ∀ p, escapedAt s p = true → titleOf (s.drop (p + 1)) ≠ [] →
      StandsFirst s (titleOf (s.drop (p + 1))) := by
  have htitle : ∀ p, s[p]? = some '@' →
      (piece s (p + 1)).takeWhile isVisible = titleOf (s.drop (p + 1)) := fun p hat =>
    takeWhile_piece s (p + 1) (after_at hat).1 (after_at hat).2
  simp only [List.mem_filterMap, List.mem_map, mem_cutsFrom_zero]
  constructor
  · intro h p he hne
    rw [← htitle p (getElem?_of_escapedAt he)] at hne ⊢
    obtain ⟨tag, htag, hread⟩ := exists_tag? hne
    rw [← hread]
    exact h tag ⟨_, ⟨p, .inr he, rfl⟩, htag⟩
  · rintro h tag ⟨_, ⟨p, hcut, rfl⟩, htag⟩
    obtain ⟨hread, hne⟩ := title_of_tag? htag
    rw [hread]
    rcases hcut with ho | he
    · rw [htitle p (getElem?_of_opensAt ho)]
      exact standsFirst_of_opensAt ho
    · rw [htitle p (getElem?_of_escapedAt he)] at hne ⊢
      exact h p he hne

theorem standsFirst_lead_iff (h : isProse s = false) :
    (∀ tag, tag? (piece s 0) = some tag → StandsFirst s tag.title.toList) ↔
      (beginsAlone s = true → StandsFirst s ['@']) := by
  have hlead := takeWhile_lead h
  constructor
  · intro hall halone
    rw [halone, if_pos rfl] at hlead
    obtain ⟨tag, htag, hread⟩ := exists_tag? (t := piece s 0) (by simp [hlead])
    have hfirst := hall tag htag
    rwa [hread, hlead] at hfirst
  · intro hall tag htag
    obtain ⟨hread, hne⟩ := title_of_tag? htag
    cases halone : beginsAlone s with
    | true =>
      rw [hread, hlead, halone, if_pos rfl]
      exact hall halone
    | false => simp [hlead, halone] at hne

/-- The tags of a text that gets no description. -/
theorem standsFirst_pieces_iff (h : isProse s = false) :
    (∀ tag ∈ (piece s 0 :: (cutsFrom s 0).map fun p => piece s (p + 1)).filterMap tag?,
      StandsFirst s tag.title.toList) ↔ KeepsToLines s := by
  have hcuts := standsFirst_cuts_iff s
  have hlead := standsFirst_lead_iff h
  simp only [List.mem_filterMap, List.mem_cons] at hcuts ⊢
  constructor
  · intro hall
    refine ⟨hcuts.mp ?_, hlead.mp fun tag htag => hall tag ⟨_, .inl rfl, htag⟩⟩
    rintro tag ⟨t, ht, htag⟩
    exact hall tag ⟨t, .inr ht, htag⟩
  · rintro ⟨hescaped, halone⟩ tag ⟨t, rfl | ht, htag⟩
    · exact hlead.mpr halone tag htag
    · exact hcuts.mpr hescaped tag ⟨t, ht, htag⟩

theorem beginsAlone_of_isProse (h : isProse s = true) : beginsAlone s = false := by
  cases s with
  | nil => rfl
  | cons c rest =>
    have hc : c ≠ '@' := by
      rintro rfl
      simp [isProse, trimLeft] at h
    simp [beginsAlone, hc]

/-- A comment holds no tags but those its author wrote at the beginning of a line,
exactly when every title behind a backslash and an `@` stands at the beginning of a line
as well, and the same goes for a second `@` if the text begins with one by itself. The
description that is put before prose is apart. -/
theorem ownTags_standFirst_iff (comment codeType : Option String) :
    (withDescription (unwrap comment) codeType ≠ unwrap comment →
      ∃ body, parse comment codeType =
        ⟨descriptionTitle codeType, body⟩ :: ownTags comment codeType) ∧
    ((∀ tag ∈ ownTags comment codeType,
        StandsFirst (unwrap comment).toList tag.title.toList) ↔
      KeepsToLines (unwrap comment).toList) := by
  cases hp : isProse (unwrap comment).toList with
  | true =>
    obtain ⟨body, hparse⟩ := parse_of_isProse hp codeType
    have halone := beginsAlone_of_isProse hp
    rw [ownTags, if_neg (withDescription_ne_self hp codeType), hparse, List.tail_cons,
      standsFirst_cuts_iff]
    refine ⟨fun _ => ⟨body, rfl⟩, fun hescaped => ⟨hescaped, ?_⟩, KeepsToLines.escaped⟩
    simp [halone]
  | false =>
    have hsame := withDescription_of_not_isProse hp codeType
    rw [ownTags, if_pos hsame, parse_of_not_isProse hp]
    exact ⟨fun hne => absurd hsame hne, standsFirst_pieces_iff hp⟩

/-- A backslash makes a tag of an `@` inside a line, and an `@` by itself is a title. -/
theorem ownTags_not_standFirst :
    (∃ tag ∈ ownTags (some "/** see \\@foo */") none, tag.title = "foo" ∧
      ¬ StandsFirst (unwrap (some "/** see \\@foo */")).toList tag.title.toList) ∧
    ∃ tag ∈ ownTags (some "/**@ foo*/") none, tag.title = "@" ∧
      ¬ StandsFirst (unwrap (some "/**@ foo*/")).toList tag.title.toList := by
  decide +kernel

end DocComment.Comment
