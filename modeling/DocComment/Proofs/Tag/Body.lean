import DocComment.Proofs.Text.Trim
import DocComment.Proofs.TypeExpr.Nesting
import DocComment.Tag.Body

/-! Bodies of tags as they are usually written: a type in braces, a name or a name with a
default in square brackets, and a description behind a hyphen. Each part is read from what
the one before it left over, and ends where it was meant to end. -/

namespace DocComment.Tag

open Text TypeExpr

/-- The name in a body, by itself or with a default. -/
inductive WrittenName where
  | alone (name : String)
  | withDefault (name default : String)
  deriving DecidableEq, Repr

namespace WrittenName

def name : WrittenName → String
  | alone name => name
  | withDefault name _ => name

def default? : WrittenName → Option String
  | alone _ => none
  | withDefault _ default => some default

def text : WrittenName → String
  | alone name => name
  | withDefault name default => "[" ++ name ++ "=" ++ default ++ "]"

/-- Nothing in the name or the default ends it before its end. -/
def IsClear : WrittenName → Prop
  | alone name => name ≠ "" ∧ (∀ c ∈ name.toList, isBlank c = false) ∧ name.toList.head? ≠ some '['
  | withDefault name default =>
    (name ≠ "" ∧ trimmed name = name ∧ '=' ∉ name.toList) ∧
      (default ≠ "" ∧ trimmed default = default) ∧
      Nested [.square] (name ++ "=" ++ default).toList

end WrittenName

/-- A body with all parts. -/
def writeBody (type : String) (name : WrittenName) (description : String) : String :=
  "\x7b" ++ type ++ "\x7d " ++ name.text ++ " - " ++ description

theorem trimmed_eq_self_iff {s : String} : trimmed s = s ↔ trim s.toList = s.toList := by
  rw [trimmed, ← String.toList_inj, String.toList_ofList]

theorem trimmed?_eq_some {s : String} (hne : s ≠ "") (hs : trimmed s = s) :
    trimmed? s.toList = some s := by
  rw [trimmed?, ← trimmed, hs, nonempty?, if_neg (by simpa using hne)]

theorem takeType?_braces {type : List Char} (h : Nested [.curly] type) (rest : List Char) :
    takeType? ('\x7b' :: (type ++ '\x7d' :: rest)) = some (type, rest) :=
  h.splitClose List.mem_cons_self rest

theorem takeName_alone {name : List Char} (hne : name ≠ [])
    (hvisible : ∀ c ∈ name, isBlank c = false) (hfirst : name.head? ≠ some '[')
    (rest : List Char) :
    takeName (' ' :: (name ++ ' ' :: rest)) =
      { name := some (String.ofList name), rest := trimLeft rest } := by
  obtain ⟨c, more, rfl⟩ := List.exists_cons_of_ne_nil hne
  have hc := hvisible c List.mem_cons_self
  have hopen : c ≠ '[' := by simpa using hfirst
  have hspace : isBlank ' ' = true := rfl
  have htrim : trimLeft (' ' :: (c :: more ++ ' ' :: rest)) = c :: (more ++ ' ' :: rest) := by
    simp [trimLeft, hspace, hc]
  have hword : ∀ d ∈ c :: more, (!isBlank d) = true := fun d hd => by simp [hvisible d hd]
  have hcut : cutWord (c :: (more ++ ' ' :: rest)) = (c :: more, trimLeft rest) := by
    rw [cutWord, ← List.cons_append, List.takeWhile_append_of_pos hword,
      List.dropWhile_append_of_pos hword]
    simp [hspace, trimLeft]
  rw [takeName, htrim]
  split
  next h => simp at h
  next h => exact absurd (List.cons.inj h).1 hopen
  next => rw [takeWord, hcut]

theorem takeName_withDefault {name default : List Char} (hname : '=' ∉ name)
    (h : Nested [.square] (name ++ '=' :: default)) (rest : List Char) :
    takeName (' ' :: '[' :: (name ++ '=' :: default ++ ']' :: rest)) =
      { name := trimmed? name, optional := some true, default := trimmed? default, rest } := by
  have hclose : splitClose '[' ']' 0 (name ++ '=' :: default ++ ']' :: rest) =
      some (name ++ '=' :: default, rest) := h.splitClose List.mem_cons_self rest
  have hbefore : ∀ c ∈ name, (c != '=') = true := fun c hc => by
    rw [bne_iff_ne]
    rintro rfl
    exact hname hc
  have htake : (name ++ '=' :: default).takeWhile (· != '=') = name := by
    simp [List.takeWhile_append_of_pos hbefore]
  have hdrop : (name ++ '=' :: default).dropWhile (· != '=') = '=' :: default := by
    simp [List.dropWhile_append_of_pos hbefore]
  have htrim : trimLeft (' ' :: '[' :: (name ++ '=' :: default ++ ']' :: rest)) =
      '[' :: (name ++ '=' :: default ++ ']' :: rest) := rfl
  rw [takeName, htrim]
  simp only [hclose, htake, hdrop, List.drop_succ_cons, List.drop_zero]

/-- A hyphen goes with the blanks around it, and what it stands before stays. -/
theorem dropHyphen_of_trimLeft {s description : List Char}
    (hs : trimLeft s = '-' :: ' ' :: description) (hdescription : trim description = description) :
    dropHyphen s = description := by
  have hspace : isBlank ' ' = true := rfl
  rw [dropHyphen, hs]
  simp only [hspace, if_true]
  exact trimLeft_eq_self_iff.mpr (trim_eq_self_iff.mp hdescription).1

/-- What is left over behind the name is the description and its hyphen. -/
theorem takeName_write {name : WrittenName} (h : name.IsClear) (description : List Char) :
    ∃ rest, takeName (' ' :: (name.text.toList ++ ' ' :: '-' :: ' ' :: description)) =
        { name := some name.name, optional := name.default?.map fun _ => true
          default := name.default?, rest } ∧
      trimLeft rest = '-' :: ' ' :: description := by
  cases name with
  | alone name =>
    obtain ⟨hne, hvisible, hfirst⟩ := h
    refine ⟨'-' :: ' ' :: description, ?_, rfl⟩
    have hname := takeName_alone (by simpa using hne) hvisible hfirst ('-' :: ' ' :: description)
    have hhyphen : trimLeft ('-' :: ' ' :: description) = '-' :: ' ' :: description := rfl
    rw [hhyphen] at hname
    simpa [WrittenName.text, WrittenName.name, WrittenName.default?] using hname
  | withDefault name default =>
    obtain ⟨⟨hne, htrimmed, hname⟩, ⟨hdefault, htrimmedDefault⟩, hnested⟩ := h
    refine ⟨' ' :: '-' :: ' ' :: description, ?_, rfl⟩
    have hparts := takeName_withDefault hname (by simpa using hnested)
      (' ' :: '-' :: ' ' :: description)
    rw [trimmed?_eq_some hne htrimmed, trimmed?_eq_some hdefault htrimmedDefault] at hparts
    simpa [WrittenName.text, WrittenName.name, WrittenName.default?] using hparts

/-- A body is read as it was written: the type as the type expression that it is, then the
name, with its default if it has one, and the description. A default makes the name
optional, and else the type decides about that. -/
theorem parseBody_write (type : String) (name : WrittenName) (description : String)
    (bareType : Bool) (htype : Nested [.curly] type.toList) (hname : name.IsClear)
    (hdescription : description ≠ "" ∧ trimmed description = description) :
    let expression := TypeExpr.parse type
    parseBody { type := true, name := true, bareType } (writeBody type name description) =
      { types := some expression.names
        name := some name.name
        optional := match name with
          | .alone _ => expression.optional
          | .withDefault _ _ => some true
        nullable := expression.nullable
        variadic := expression.variadic
        default := name.default?
        description := some description } := by
  intro expression
  have hchars : (writeBody type name description).toList = '\x7b' :: (type.toList ++ '\x7d' ::
      (' ' :: (name.text.toList ++ ' ' :: '-' :: ' ' :: description.toList))) := by
    simp [writeBody]
  obtain ⟨rest, hpart, hrest⟩ := takeName_write hname description.toList
  have hhyphen := dropHyphen_of_trimLeft hrest (trimmed_eq_self_iff.mp hdescription.2)
  have hparts : typePart { type := true, name := true, bareType }
      (writeBody type name description).toList = (some expression,
        ' ' :: (name.text.toList ++ ' ' :: '-' :: ' ' :: description.toList)) := by
    rw [hchars, typePart, takeType?_braces htype]
    rfl
  rw [parseBody, parseBodyChars, hparts]
  simp only [if_true, hpart, hhyphen, trimmed?_eq_some hdescription.1 hdescription.2]
  cases name <;> rfl

/-- Braces in the type, a sign of equality and brackets in the default, and a description
that begins with a hyphen. -/
theorem parseBody_write_lookalikes :
    let type := "?A<b, \x7bk: c\x7d>"
    let name := WrittenName.withDefault "opts" "[a=b]"
    Nested [.curly] type.toList ∧ name.IsClear ∧ trimmed "- d" = "- d" ∧
      parseBody { type := true, name := true } "\x7b?A<b, \x7bk: c\x7d>\x7d [opts=[a=b]] - - d" =
        { types := some ["A<b, \x7bk: c\x7d>"], name := some "opts", optional := some true
          nullable := some true, default := some "[a=b]", description := some "- d" } := by
  intro type name
  have htype : Nested [.curly] type.toList := by decide +kernel
  have hname : name.IsClear := by
    simp only [name, WrittenName.IsClear]
    decide +kernel
  have hdescription : "- d" ≠ "" ∧ trimmed "- d" = "- d" := by decide +kernel
  have htext : writeBody type name "- d" =
      "\x7b?A<b, \x7bk: c\x7d>\x7d [opts=[a=b]] - - d" := by decide +kernel
  have hexpression : TypeExpr.parse type =
      { names := ["A<b, \x7bk: c\x7d>"], nullable := some true } := by decide +kernel
  have hparts := parseBody_write type name "- d" false htype hname hdescription
  rw [hexpression, htext] at hparts
  exact ⟨htype, hname, hdescription.2, hparts⟩

end DocComment.Tag
