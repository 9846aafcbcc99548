import DocComment.Comment.Tags

/-! Comments that hold one tag in one line, as in `/** @name Foo */`: what is read
from them is the tag as it was written. -/

namespace DocComment.Comment

open Text

theorem dropMargins_none_cons (c : Char) (rest : List Char) :
    dropMargins none (c :: rest) = c :: dropMargins (if c = '\n' then some [] else none) rest := by
  rw [dropMargins.eq_def]

theorem dropMargins_line {s : List Char} (h : '\n' ∉ s) : dropMargins none s = s := by
  induction s with
  | nil => rfl
  | cons c rest ih =>
    simp only [List.mem_cons, not_or] at h
    rw [dropMargins_none_cons, if_neg (Ne.symm h.1), ih h.2]

theorem dropMargins_tag {s : List Char} (h : '\n' ∉ s) :
    dropMargins (some []) (' ' :: '@' :: s) = ' ' :: '@' :: s := by
  have hblank : dropMargins (some []) (' ' :: '@' :: s) = dropMargins (some [' ']) ('@' :: s) := by
    rw [dropMargins.eq_def]
    rfl
  have hshown : dropMargins (some [' ']) ('@' :: s) = ' ' :: '@' :: dropMargins none s := by
    rw [dropMargins.eq_def]
    rfl
  rw [hblank, hshown, dropMargins_line h]

theorem markTags_of_notMem {s : List Char} (h : '@' ∉ s) (fresh : Bool) : markTags fresh s = s := by
  induction s generalizing fresh with
  | nil => rfl
  | cons c rest ih =>
    simp only [List.mem_cons, not_or] at h
    rw [markTags, ih h.2]
    rintro d tail rfl
    exact absurd rfl h.1

theorem splitMarks_of_notMem {s : List Char} (h : '@' ∉ s) : splitMarks s = [s] := by
  induction s with
  | nil => rfl
  | cons c rest ih =>
    simp only [List.mem_cons, not_or] at h
    rw [splitMarks, ih h.2]
    rintro tail rfl rfl
    simp at h

/-- A title and a body of a single line, which begins and ends with no blank. -/
structure OneLine (title body : List Char) : Prop where
  title_ne_nil : title ≠ []
  visible : ∀ c ∈ title, isBlank c = false
  noMark : '@' ∉ title ∧ '@' ∉ body
  noBreak : '\n' ∉ body
  first : ∃ c rest, body = c :: rest ∧ isBlank c = false
  last : ∃ front c, body = front ++ [c] ∧ isBlank c = false

/-- The comment of one line that holds nothing but that tag. -/
def single (title body : List Char) : List Char :=
  "/** @".toList ++ (title ++ ' ' :: (body ++ " */".toList))

variable {title body : List Char}

theorem unwrapChars_single (h : OneLine title body) :
    unwrapChars (single title body) = ' ' :: '@' :: (title ++ ' ' :: body) := by
  have hbreak : '\n' ∉ title := fun hmem => absurd (h.visible _ hmem) (by decide)
  obtain ⟨front, c, hbody, hc⟩ := h.last
  have hopen : dropOpening (single title body) =
      ' ' :: '@' :: (title ++ ' ' :: (body ++ " */".toList)) := rfl
  have hclose : markClosing (' ' :: '@' :: (title ++ ' ' :: (body ++ " */".toList))) =
      ' ' :: '@' :: (title ++ ' ' :: (body ++ " \\Z".toList)) := by
    simp [markClosing, endMark]
  have hmargin : dropMargins (some []) (' ' :: '@' :: (title ++ ' ' :: (body ++ " \\Z".toList))) =
      ' ' :: '@' :: (title ++ ' ' :: (body ++ " \\Z".toList)) :=
    dropMargins_tag (by simp [hbreak, h.noBreak])
  have hend : dropEndMark (' ' :: '@' :: (title ++ ' ' :: (body ++ " \\Z".toList))) =
      ' ' :: '@' :: (title ++ ' ' :: body) := by
    have hspace : isBlank ' ' = true := rfl
    simp [dropEndMark, hbody, hspace, hc]
  rw [unwrapChars, hopen, hclose, hmargin, hend]

theorem tag?_word (h : OneLine title body) :
    tag? (title ++ ' ' :: body) = some ⟨String.ofList title, some (String.ofList body)⟩ := by
  obtain ⟨c, rest, hbody, hc⟩ := h.first
  have hspace : isBlank ' ' = true := rfl
  have hvisible : ∀ c ∈ title, (!isBlank c) = true := fun c hc => by simp [h.visible c hc]
  have hcut : cutWord (title ++ ' ' :: body) = (title, body) := by
    rw [cutWord, List.takeWhile_append_of_pos hvisible, List.dropWhile_append_of_pos hvisible]
    simp [hspace, trimLeft, hbody, hc]
  have hbody_ne : body ≠ [] := by simp [hbody]
  simp [tag?, hcut, h.title_ne_nil, hbody_ne]

theorem tags_word (h : OneLine title body) :
    tags (String.ofList (' ' :: '@' :: (title ++ ' ' :: body))) =
      [⟨String.ofList title, some (String.ofList body)⟩] := by
  have htag := tag?_word h
  have hmark : '@' ∉ title ++ ' ' :: body := by simp [h.noMark]
  have hvisible : ∃ c rest, title ++ ' ' :: body = c :: rest ∧ isBlank c = false := by
    obtain ⟨c, rest, rfl⟩ := List.exists_cons_of_ne_nil h.title_ne_nil
    exact ⟨c, rest ++ ' ' :: body, rfl, h.visible c List.mem_cons_self⟩
  obtain ⟨c, rest, hword, hc⟩ := hvisible
  rw [hword] at htag hmark ⊢
  have hmarks : markTags true (' ' :: '@' :: c :: rest) = ' ' :: '\\' :: '@' :: c :: rest := by
    have hblank : markTags true (' ' :: '@' :: c :: rest) =
        ' ' :: markTags true ('@' :: c :: rest) := rfl
    have hrest := markTags_of_notMem (List.not_mem_of_not_mem_cons hmark) false
    rw [hblank, markTags, if_pos (by simp [hc]), hrest]
    rfl
  have hsplit : splitMarks (' ' :: '\\' :: '@' :: c :: rest) = [[' '], c :: rest] := by
    simp [splitMarks, splitMarks_of_notMem hmark]
  have hfirst : tag? [' '] = none := rfl
  rw [tags, String.toList_ofList, hmarks, hsplit, List.filterMap_cons, hfirst,
    List.filterMap_cons, htag, List.filterMap_nil]

theorem parse_single (h : OneLine title body) (codeType : Option String) :
    parse (some (String.ofList (single title body))) codeType =
      [⟨String.ofList title, some (String.ofList body)⟩] := by
  have htext : unwrap (some (String.ofList (single title body))) =
      String.ofList (' ' :: '@' :: (title ++ ' ' :: body)) := by
    rw [unwrap, Option.getD_some, String.toList_ofList, unwrapChars_single h]
  have hwith : withDescription (String.ofList (' ' :: '@' :: (title ++ ' ' :: body))) codeType =
      String.ofList (' ' :: '@' :: (title ++ ' ' :: body)) := by
    rw [withDescription, String.toList_ofList]
    rfl
  rw [parse, htext, hwith, tags_word h]

end DocComment.Comment
