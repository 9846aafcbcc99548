import DocComment.Proofs.Text.Trim
import DocComment.Proofs.TypeExpr.Nesting

/-! Where a union is cut into its names. The scan cuts at every pipe that it meets with
as many brackets closed as opened, whatever their kinds. For names whose brackets come
in pairs these are the pipes between the names. The arrow of a function type is the
exception: its second character counts as a closing bracket, so that behind an arrow
every pipe is taken for one that stands a bracket further out than it does. -/

namespace DocComment.TypeExpr

open Text

/-- The text without the arrows in it. -/
def dropArrows : List Char → List Char
  | [] => []
  | '=' :: '>' :: s => dropArrows s
  | c :: s => c :: dropArrows s

/-- The number of arrows in a text. -/
def arrows : List Char → Nat
  | [] => 0
  | '=' :: '>' :: s => arrows s + 1
  | _ :: s => arrows s

/-- A name that a union can have, where a text is read for its brackets as `visible` has
it: they come in pairs, and no pipe stands outside of them. -/
structure IsMember (visible : List Char → List Char) (name : List Char) : Prop where
  ne_nil : name ≠ []
  trimmed : trim name = name
  nested : Nested Bracket.all (visible name)
  noPipe : ∀ before after, name = before ++ '|' :: after → ¬ Nested Bracket.all (visible before)

/-- What is said of the text before each pipe can be told from the places of the pipes. -/
theorem forall_before_pipe {p : List Char → Prop} {s : List Char} :
    (∀ before after, s = before ++ '|' :: after → p before) ↔
      ∀ i < s.length, s[i]? = some '|' → p (s.take i) := by
  constructor
  · intro h i hi hpipe
    rw [List.getElem?_eq_getElem hi, Option.some.injEq] at hpipe
    refine h (s.take i) (s.drop (i + 1)) ?_
    rw [← hpipe, List.getElem_cons_drop, List.take_append_drop]
  · intro h before after hs
    have hbefore := h before.length (by simp [hs]) (by simp [hs])
    rwa [hs, List.take_left] at hbefore

theorem isMember_iff {visible : List Char → List Char} {name : List Char} :
    IsMember visible name ↔ name ≠ [] ∧ trim name = name ∧ Nested Bracket.all (visible name) ∧
      ∀ i < name.length, name[i]? = some '|' → ¬ Nested Bracket.all (visible (name.take i)) := by
  rw [← forall_before_pipe (p := fun before => ¬ Nested Bracket.all (visible before))]
  exact ⟨fun h => ⟨h.ne_nil, h.trimmed, h.nested, h.noPipe⟩,
    fun ⟨hne, htrimmed, hnested, hpipe⟩ => ⟨hne, htrimmed, hnested, hpipe⟩⟩

instance (visible : List Char → List Char) (name : List Char) :
    Decidable (IsMember visible name) := decidable_of_iff _ isMember_iff.symm

/-- No pipe of the text is met with all brackets closed, if `depth` are open before it. -/
def Uncut (depth : Int) (s : List Char) : Prop :=
  ∀ before after, s = before ++ '|' :: after → depth + balance before ≠ 0

theorem bracketStep_pipe : bracketStep '|' = 0 := by decide

theorem uncut_nil (depth : Int) : Uncut depth [] := by
  intro before after h
  simp at h

theorem uncut_cons_iff {depth : Int} {c : Char} {s : List Char} :
    Uncut depth (c :: s) ↔ (c = '|' → depth ≠ 0) ∧ Uncut (depth + bracketStep c) s := by
  constructor
  · intro h
    refine ⟨fun hc => ?_, fun before after hs => ?_⟩
    · simpa using h [] s (by rw [hc, List.nil_append])
    · have hcut := h (c :: before) after (by rw [hs, List.cons_append])
      rwa [balance_cons, ← Int.add_assoc] at hcut
  · rintro ⟨hc, hs⟩ before after h
    cases before with
    | nil =>
      obtain ⟨rfl, -⟩ := List.cons.inj h
      simpa using hc rfl
    | cons d before =>
      obtain ⟨rfl, rfl⟩ := List.cons.inj h
      rw [balance_cons, ← Int.add_assoc]
      exact hs before after rfl

section SplitPipes

variable {depth : Int} {c : Char} {s piece rest : List Char} {more : List (List Char)}

theorem splitPipes_pipe (rest : List Char) :
    splitPipes 0 ('|' :: rest) = [] :: splitPipes 0 rest := by
  simp [splitPipes, bracketStep_pipe]

theorem splitPipes_cons (hc : c = '|' → depth ≠ 0)
    (hs : splitPipes (depth + bracketStep c) s = piece :: more) :
    splitPipes depth (c :: s) = (c :: piece) :: more := by
  rw [splitPipes, hs, if_neg (by simpa using hc)]

theorem splitPipes_of_uncut (h : Uncut depth s) : splitPipes depth s = [s] := by
  induction s generalizing depth with
  | nil => rfl
  | cons c s ih =>
    obtain ⟨hc, hs⟩ := uncut_cons_iff.mp h
    exact splitPipes_cons hc (ih hs)

theorem splitPipes_append (h : Uncut depth piece) (hdepth : depth + balance piece = 0) :
    splitPipes depth (piece ++ '|' :: rest) = piece :: splitPipes 0 rest := by
  induction piece generalizing depth with
  | nil =>
    obtain rfl : depth = 0 := by simpa using hdepth
    exact splitPipes_pipe rest
  | cons c piece ih =>
    obtain ⟨hc, hpiece⟩ := uncut_cons_iff.mp h
    rw [balance_cons, ← Int.add_assoc] at hdepth
    exact splitPipes_cons hc (ih hpiece hdepth)

/-- A text is cut nowhere, or there is a first pipe where it is cut. -/
theorem uncut_or_exists_cut (depth : Int) (s : List Char) :
    Uncut depth s ∨
      ∃ piece rest, s = piece ++ '|' :: rest ∧ Uncut depth piece ∧ depth + balance piece = 0 := by
  induction s generalizing depth with
  | nil => exact .inl (uncut_nil depth)
  | cons c s ih =>
    by_cases hcut : c = '|' ∧ depth = 0
    · obtain ⟨rfl, rfl⟩ := hcut
      exact .inr ⟨[], s, rfl, uncut_nil 0, rfl⟩
    · have hc : c = '|' → depth ≠ 0 := fun hpipe hzero => hcut ⟨hpipe, hzero⟩
      rcases ih (depth + bracketStep c) with hs | ⟨piece, rest, rfl, hpiece, hdepth⟩
      · exact .inl (uncut_cons_iff.mpr ⟨hc, hs⟩)
      · refine .inr ⟨c :: piece, rest, rfl, uncut_cons_iff.mpr ⟨hc, hpiece⟩, ?_⟩
        rwa [balance_cons, ← Int.add_assoc]

theorem splitPipes_ne_nil (depth : Int) (s : List Char) : splitPipes depth s ≠ [] := by
  rcases uncut_or_exists_cut depth s with h | ⟨piece, rest, rfl, hpiece, hdepth⟩
  · simp [splitPipes_of_uncut h]
  · simp [splitPipes_append hpiece hdepth]

/-- The pieces put together with pipes are the text again. -/
theorem intercalate_splitPipes (depth : Int) (s : List Char) :
    ['|'].intercalate (splitPipes depth s) = s := by
  rcases uncut_or_exists_cut depth s with h | ⟨piece, rest, hs, hpiece, hdepth⟩
  · rw [splitPipes_of_uncut h, List.intercalate_singleton]
  · have hshorter : rest.length < s.length := by
      rw [hs, List.length_append, List.length_cons]
      omega
    have hrest := intercalate_splitPipes 0 rest
    obtain ⟨first, others, hpieces⟩ := List.exists_cons_of_ne_nil (splitPipes_ne_nil 0 rest)
    rw [hpieces] at hrest
    rw [hs, splitPipes_append hpiece hdepth, hpieces, List.intercalate_cons_cons, hrest,
      List.append_assoc, List.singleton_append]
termination_by s.length

theorem splitPipes_append_iff (hmore : more ≠ []) :
    splitPipes depth (piece ++ '|' :: rest) = piece :: more ↔
      (Uncut depth piece ∧ depth + balance piece = 0) ∧ splitPipes 0 rest = more := by
  constructor
  · intro h
    rcases uncut_or_exists_cut depth (piece ++ '|' :: rest) with huncut | ⟨first, behind, hs, hcut⟩
    · rw [splitPipes_of_uncut huncut] at h
      exact absurd (List.cons.inj h).2.symm hmore
    · rw [hs, splitPipes_append hcut.1 hcut.2] at h
      obtain ⟨rfl, hbehind⟩ := List.cons.inj h
      obtain rfl : rest = behind := by simpa using hs
      exact ⟨hcut, hbehind⟩
  · rintro ⟨⟨hpiece, hdepth⟩, rfl⟩
    exact splitPipes_append hpiece hdepth

theorem splitPipes_eq_singleton_iff : splitPipes depth s = [s] ↔ Uncut depth s := by
  constructor
  · intro h
    rcases uncut_or_exists_cut depth s with huncut | ⟨piece, rest, rfl, hpiece, hdepth⟩
    · exact huncut
    · rw [splitPipes_append hpiece hdepth] at h
      exact absurd (List.cons.inj h).2 (splitPipes_ne_nil 0 rest)
  · exact splitPipes_of_uncut

end SplitPipes

/-- Names are cut apart at the pipes between them, and nowhere else, exactly when no pipe
inside a name is met with all brackets closed and every pipe between two names is. -/
theorem splitPipes_intercalate_iff {names : List (List Char)} (hne : names ≠ []) :
    splitPipes 0 (['|'].intercalate names) = names ↔
      (∀ name ∈ names.dropLast, Uncut 0 name ∧ balance name = 0) ∧
        ∀ last ∈ names.getLast?, Uncut 0 last := by
  match names with
  | [] => exact absurd rfl hne
  | [name] => simp [splitPipes_eq_singleton_iff]
  | name :: next :: names =>
    rw [List.intercalate_cons_cons, List.append_assoc, List.singleton_append,
      splitPipes_append_iff (List.cons_ne_nil _ _),
      splitPipes_intercalate_iff (List.cons_ne_nil next names), Int.zero_add,
      List.dropLast_cons_cons, List.forall_mem_cons, List.getLast?_cons_cons, and_assoc, and_assoc,
      and_assoc]

/-- Room for the names and a pipe behind each. -/
def room : List (List Char) → Nat
  | [] => 0
  | name :: names => name.length + 1 + room names

theorem room_eq {names : List (List Char)} (hne : names ≠ []) :
    room names = (['|'].intercalate names).length + 1 := by
  match names with
  | [] => exact absurd rfl hne
  | [name] => simp [room]
  | name :: next :: names =>
    have hrest := room_eq (List.cons_ne_nil next names)
    rw [room, hrest, List.intercalate_cons_cons]
    simp only [List.length_append, List.length_cons, List.length_nil]
    omega

/-- The names that are left of some pieces. -/
def trimmedPieces (pieces : List (List Char)) : List (List Char) :=
  (pieces.map trim).filter fun name => !name.isEmpty

/-- Trimming pieces makes them take less room, unless it changes none of them. -/
theorem room_trimmedPieces (pieces : List (List Char)) :
    room (trimmedPieces pieces) ≤ room pieces ∧
      (room (trimmedPieces pieces) = room pieces → trimmedPieces pieces = pieces) := by
  induction pieces with
  | nil => exact ⟨Nat.le_refl 0, fun _ => rfl⟩
  | cons piece pieces ih =>
    obtain ⟨hle, heq⟩ := ih
    have htrim := (trim_sublist piece).length_le
    by_cases hempty : trim piece = []
    · have hkept : trimmedPieces (piece :: pieces) = trimmedPieces pieces := by
        simp [trimmedPieces, hempty]
      rw [hkept, room]
      exact ⟨by omega, fun h => by omega⟩
    · have hkept : trimmedPieces (piece :: pieces) = trim piece :: trimmedPieces pieces := by
        simp [trimmedPieces, hempty]
      rw [hkept, room, room]
      refine ⟨by omega, fun h => ?_⟩
      rw [heq (by omega), (trim_sublist piece).eq_of_length (by omega)]

/-- Cutting gives names that were joined back if and only if it cuts at the pipes between
them alone: there is no room for other pieces that come down to the same names. -/
theorem splitNamesChars_intercalate_iff {names : List (List Char)} (hne : names ≠ [])
    (h : ∀ name ∈ names, name ≠ [] ∧ trim name = name) :
    splitNamesChars (['|'].intercalate names) = names ↔
      splitPipes 0 (['|'].intercalate names) = names := by
  have hkept : trimmedPieces names = names := by
    have hmap : names.map trim = names :=
      (List.map_congr_left fun name hname => (h name hname).2).trans names.map_id'
    rw [trimmedPieces, hmap, List.filter_eq_self]
    intro name hname
    simpa using (h name hname).1
  constructor
  · intro hnames
    have hsplit : trimmedPieces (splitPipes 0 (['|'].intercalate names)) = names := hnames
    have hroom : room (splitPipes 0 (['|'].intercalate names)) = room names := by
      rw [room_eq (splitPipes_ne_nil _ _), intercalate_splitPipes, room_eq hne]
    -- the pieces make up the joined names, so they leave no room for blanks
    have heq := (room_trimmedPieces (splitPipes 0 (['|'].intercalate names))).2
    rw [hsplit] at heq
    exact (heq hroom.symm).symm
  · intro hpieces
    exact (congrArg trimmedPieces hpieces).trans hkept

/-! Brackets as they are read without the arrows. -/

theorem dropArrows_cons {c : Char} {s : List Char} (h : ∀ rest, c = '=' → s ≠ '>' :: rest) :
    dropArrows (c :: s) = c :: dropArrows s := by
  rw [dropArrows]
  exact h

theorem arrows_cons {c : Char} {s : List Char} (h : ∀ rest, c = '=' → s ≠ '>' :: rest) :
    arrows (c :: s) = arrows s := by
  rw [arrows]
  exact h

/-- An arrow is read as a closing bracket that is not there. -/
theorem balance_eq_dropArrows (s : List Char) : balance s = balance (dropArrows s) - arrows s := by
  fun_induction dropArrows s with
  | case1 => rfl
  | case2 s ih =>
    have heq : bracketStep '=' = 0 := by decide
    have hgt : bracketStep '>' = -1 := by decide
    rw [balance_cons, balance_cons, heq, hgt, ih, arrows]
    omega
  | case3 c s hc ih =>
    rw [balance_cons, balance_cons, ih, arrows_cons hc]
    omega

/-- A pipe is no part of an arrow. -/
theorem dropArrows_pipe (before after : List Char) :
    dropArrows (before ++ '|' :: after) = dropArrows before ++ '|' :: dropArrows after ∧
      arrows (before ++ '|' :: after) = arrows before + arrows after := by
  fun_induction dropArrows before with
  | case1 =>
    have hpipe : ∀ rest, '|' = '=' → after ≠ '>' :: rest := fun _ h => absurd h (by decide)
    refine ⟨dropArrows_cons hpipe, ?_⟩
    rw [List.nil_append, arrows_cons hpipe, arrows, Nat.zero_add]
  | case2 before ih =>
    simp only [List.cons_append, dropArrows, arrows, ih]
    exact ⟨trivial, by omega⟩
  | case3 c before hc ih =>
    -- the character behind `c` is the same, or it is the pipe
    have happend : ∀ rest, c = '=' → before ++ '|' :: after ≠ '>' :: rest := by
      intro rest heq
      cases before with
      | nil => simp
      | cons d before =>
        intro h
        exact hc before heq (by rw [(List.cons.inj h).1])
    rw [List.cons_append, dropArrows_cons happend, arrows_cons happend, ih.1, ih.2, arrows_cons hc]
    exact ⟨rfl, rfl⟩

theorem splitNames_join_eq_iff (names : List String) :
    splitNames ("|".intercalate names) = names ↔
      splitNamesChars (['|'].intercalate (names.map String.toList)) = names.map String.toList := by
  have hpipe : "|".toList = ['|'] := rfl
  rw [splitNames, String.toList_intercalate, hpipe]
  constructor
  · intro h
    have hchars := congrArg (List.map String.toList) h
    simpa using hchars
  · intro h
    simp [h]

theorem splitNames_join_iff_uncut {names : List String} (hne : names ≠ [])
    (h : ∀ name ∈ names, name.toList ≠ [] ∧ trim name.toList = name.toList) :
    splitNames ("|".intercalate names) = names ↔
      (∀ name ∈ names.dropLast, Uncut 0 name.toList ∧ balance name.toList = 0) ∧
        ∀ last ∈ names.getLast?, Uncut 0 last.toList := by
  have hchars : names.map String.toList ≠ [] := by simpa using hne
  rw [splitNames_join_eq_iff, splitNamesChars_intercalate_iff hchars (by simpa using h),
    splitPipes_intercalate_iff hchars, ← List.map_dropLast, List.forall_mem_map]
  refine and_congr_right fun _ => ?_
  cases hlast : names.getLast? <;> simp [hlast]

section IsMember

variable {visible : List Char → List Char} {name before after : List Char}

theorem IsMember.balance_ne (h : IsMember visible name) (hname : name = before ++ '|' :: after)
    (hvisible : visible name = visible before ++ '|' :: visible after) :
    balance (visible before) ≠ 0 :=
  fun hzero => h.noPipe before after hname ((h.nested.of_prefix ⟨_, hvisible.symm⟩).2 hzero)

theorem uncut_iff (name : List Char) :
    Uncut 0 name ↔ ∀ before after, name = before ++ '|' :: after →
      balance (dropArrows before) ≠ arrows before := by
  refine forall₃_congr fun before after hname => ?_
  rw [balance_eq_dropArrows before]
  omega

theorem IsMember.uncut_and_balance_iff (h : IsMember dropArrows name) :
    Uncut 0 name ∧ balance name = 0 ↔ arrows name = 0 := by
  have hbalance : balance name = 0 ↔ arrows name = 0 := by
    rw [balance_eq_dropArrows, h.nested.balance_eq]
    omega
  rw [hbalance]
  refine ⟨And.right, fun hzero => ⟨(uncut_iff name).mpr fun before after hname => ?_, hzero⟩⟩
  obtain ⟨hvisible, hcount⟩ := dropArrows_pipe before after
  have hne := h.balance_ne hname (hname ▸ hvisible)
  rw [hname] at hzero
  omega

end IsMember

/-- A union of function types and others is cut into its names exactly when no name but
the last has an arrow, and in the last one no pipe stands in as many brackets as there are
arrows before it. -/
theorem splitNames_join_iff (names : List String)
    (h : ∀ name ∈ names, IsMember dropArrows name.toList) :
    splitNames ("|".intercalate names) = names ↔
      (∀ name ∈ names.dropLast, arrows name.toList = 0) ∧
        ∀ last ∈ names.getLast?, ∀ before after, last.toList = before ++ '|' :: after →
          balance (dropArrows before) ≠ arrows before := by
  by_cases hne : names = []
  · subst hne
    simp [splitNames, splitNamesChars, splitPipes, trim, trimLeft, trimRight, dropEnd]
  · rw [splitNames_join_iff_uncut hne fun name hname =>
      ⟨(h name hname).ne_nil, (h name hname).trimmed⟩]
    refine and_congr (forall₂_congr fun name hname => ?_) (forall₂_congr fun last _ => ?_)
    · exact (h name (List.dropLast_subset names hname)).uncut_and_balance_iff
    · exact uncut_iff last.toList

/-- A function type in the last place, with a pipe in more brackets than there are arrows
before it. -/
theorem splitNames_join_iff_last :
    let names := ["A<b|c>", "((d) => [e|f])"]
    (∀ name ∈ names, IsMember dropArrows name.toList) ∧
      splitNames ("|".intercalate names) = names := by
  intro names
  have hnames : ∀ name ∈ names, IsMember dropArrows name.toList := by decide +kernel
  have hlast : ∀ last ∈ names.getLast?, ∀ before after, last.toList = before ++ '|' :: after →
      balance (dropArrows before) ≠ arrows before := by
    intro last hlast
    obtain rfl : "((d) => [e|f])" = last := by simpa [names] using hlast
    exact forall_before_pipe.mpr (by decide +kernel)
  exact ⟨hnames, (splitNames_join_iff names hnames).mpr ⟨by decide +kernel, hlast⟩⟩

/-- Behind a function type in parentheses a pipe is overlooked. -/
theorem splitNames_join_behind_arrow :
    let names := ["(() => T)", "null"]
    (∀ name ∈ names, IsMember dropArrows name.toList) ∧
      splitNames ("|".intercalate names) = ["(() => T)|null"] ∧
      splitNames ("|".intercalate names) ≠ names := by
  decide +kernel

end DocComment.TypeExpr
