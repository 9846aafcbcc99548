import DocComment.Proofs.TypeExpr.Union

/-! Type expressions in their full written form: a union in parentheses with the marks
that make it variadic, nullable or not, and optional. Reading gives the names and the marks
back, since the parentheses are each other's partners whatever the names hold. -/

namespace DocComment.TypeExpr

open Text

def dots (variadic : Bool) : String := if variadic then "..." else ""

def nullMark : Option Bool → String
  | some true => "?"
  | some false => "!"
  | none => ""

def equals (optional : Bool) : String := if optional then "=" else ""

/-- The union of some names in parentheses, with the marks that make it variadic, nullable
or not nullable, and optional. -/
def write (names : List String) (variadic : Bool) (nullable : Option Bool) (optional : Bool) :
    String :=
  dots variadic ++ (nullMark nullable ++ ("(" ++ "|".intercalate names ++ ")" ++ equals optional))

/-- What is recorded of a mark that is there or not. -/
def noted (mark : Bool) : Option Bool := if mark then some true else none

section Marks

variable (inside : List Char) (variadic : Bool) (nullable : Option Bool) (optional : Bool)

/-- What stands between the marks. -/
def group : List Char := '(' :: (inside ++ [')'])

theorem takeVariadic_write :
    takeVariadic ((dots variadic).toList ++ ((nullMark nullable).toList ++
        (group inside ++ (equals optional).toList))) =
      (noted variadic,
        (nullMark nullable).toList ++ (group inside ++ (equals optional).toList)) := by
  cases variadic <;> rcases nullable with _ | _ | _ <;> rfl

theorem takeNullable_write :
    takeNullable ((nullMark nullable).toList ++ (group inside ++ (equals optional).toList)) =
      (nullable, group inside ++ (equals optional).toList) := by
  rcases nullable with _ | _ | _ <;> rfl

theorem getLast?_group : (group inside).getLast? = some ')' := by
  rw [group, ← List.cons_append, List.getLast?_concat]

theorem trimRight_group : trimRight (group inside) = group inside := by
  refine trimRight_eq_self_iff.mpr fun c hc => ?_
  obtain rfl : ')' = c := by simpa [getLast?_group] using hc
  rfl

theorem takeOptional_write :
    takeOptional (group inside ++ (equals optional).toList) = (noted optional, group inside) := by
  cases optional with
  | false => simp [takeOptional, equals, group, noted]
  | true => simp [takeOptional, equals, noted, trimRight_group]

theorem trim_write :
    trim ((dots variadic).toList ++ ((nullMark nullable).toList ++
        (group inside ++ (equals optional).toList))) =
      (dots variadic).toList ++ ((nullMark nullable).toList ++
        (group inside ++ (equals optional).toList)) := by
  refine trim_eq_self_iff.mpr ⟨fun c hc => ?_, fun c hc => ?_⟩
  · cases variadic <;> rcases nullable with _ | _ | _ <;> obtain rfl := Option.some.inj hc <;> rfl
  · have hlast : c = ')' ∨ c = '=' := by
      cases optional <;> simp_all [equals, List.getLast?_append, getLast?_group, eq_comm]
    rcases hlast with rfl | rfl <;> rfl

theorem dropParentheses_group (h : Nested Bracket.all inside) :
    dropParentheses (group inside) = inside := by
  have hclose := h.splitClose (Bracket.mem_all .round) []
  simp only [Bracket.opening, Bracket.closing] at hclose
  simp [dropParentheses, group, hclose]

end Marks

theorem nested_intercalate {names : List (List Char)}
    (h : ∀ name ∈ names, Nested Bracket.all name) :
    Nested Bracket.all (['|'].intercalate names) := by
  match names with
  | [] => exact .nil
  | [name] => simpa using h
  | name :: next :: names =>
    obtain ⟨hname, hrest⟩ := List.forall_mem_cons.mp h
    rw [List.intercalate_cons_cons, List.append_assoc]
    exact hname.append (.plain (by decide) (nested_intercalate hrest))

theorem splitNames_join {names : List String} (h : ∀ name ∈ names, IsMember id name.toList) :
    splitNames ("|".intercalate names) = names := by
  by_cases hne : names = []
  · rw [hne]
    decide +kernel
  · have hcut : ∀ name ∈ names, Uncut 0 name.toList ∧ balance name.toList = 0 := fun name hname =>
      ⟨fun before after hs hzero =>
        (h name hname).balance_ne hs hs (by rwa [Int.zero_add] at hzero),
        (h name hname).nested.balance_eq⟩
    rw [splitNames_join_iff_uncut hne fun name hname =>
      ⟨(h name hname).ne_nil, (h name hname).trimmed⟩]
    refine ⟨fun name hname => ?_, fun last hlast => ?_⟩
    · exact hcut name (List.dropLast_subset names hname)
    · exact (hcut last (List.mem_of_getLast? hlast)).1

/-- A type expression is read as it was written: names that are nested in brackets of all
kinds, in parentheses and with any marks, come back in order and with these marks. -/
theorem parse_write (names : List String) (variadic : Bool) (nullable : Option Bool)
    (optional : Bool) (h : ∀ name ∈ names, IsMember id name.toList) :
    parse (write names variadic nullable optional) =
      { names, optional := noted optional, nullable, variadic := noted variadic } := by
  have hchars : (write names variadic nullable optional).toList =
      (dots variadic).toList ++ ((nullMark nullable).toList ++
        (group ("|".intercalate names).toList ++ (equals optional).toList)) := by
    simp [write, group]
  have hinside : Nested Bracket.all ("|".intercalate names).toList := by
    rw [String.toList_intercalate]
    exact nested_intercalate (List.forall_mem_map.mpr fun name hname => (h name hname).nested)
  have hnames := splitNames_join h
  rw [splitNames] at hnames
  simp only [parse, parseChars, hchars, trim_write, takeVariadic_write, takeNullable_write,
    takeOptional_write, dropParentheses_group _ hinside, hnames]

/-- All marks, around names with pipes in brackets of every kind. -/
theorem parse_write_marked :
    let names := ["A<b|(c)>", "\x7bk: [d|e]\x7d"]
    (∀ name ∈ names, IsMember id name.toList) ∧
      write names true (some false) true = "...!(A<b|(c)>|\x7bk: [d|e]\x7d)=" ∧
      parse "...!(A<b|(c)>|\x7bk: [d|e]\x7d)=" =
        { names, optional := some true, nullable := some false, variadic := some true } := by
  intro names
  have hnames : ∀ name ∈ names, IsMember id name.toList := by decide +kernel
  have hwrite : write names true (some false) true = "...!(A<b|(c)>|\x7bk: [d|e]\x7d)=" := by
    decide +kernel
  exact ⟨hnames, hwrite, hwrite ▸ parse_write names true (some false) true hnames⟩

end DocComment.TypeExpr
