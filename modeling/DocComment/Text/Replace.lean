/-! Replacing parts of a text from left to right, by a rule that looks at what
is left of it. A place that the rule has used is never looked at again. -/

namespace DocComment.Text

/-- `rule s` gives the replacement for the beginning of `s` and how many
characters it stands for. The first argument counts characters that the last
replacement still has to swallow. -/
def replaceFrom (rule : List Char → Option (List Char × Nat)) : Nat → List Char → List Char
  | _, [] => []
  | skip + 1, _ :: rest => replaceFrom rule skip rest
  | 0, c :: rest =>
    match rule (c :: rest) with
    | some (replacement, length) => replacement ++ replaceFrom rule (length - 1) rest
    | none => c :: replaceFrom rule 0 rest

def replaceBy (rule : List Char → Option (List Char × Nat)) (s : List Char) : List Char :=
  replaceFrom rule 0 s

/-- Replaces every occurrence of `old`, which is not empty. -/
def replaceAll (old new : List Char) : List Char → List Char :=
  replaceBy fun s => if old.isPrefixOf s then some (new, old.length) else none

/-- What follows `start` in a text that begins with it. -/
def dropStart? : List Char → List Char → Option (List Char)
  | [], s => some s
  | _ :: _, [] => none
  | c :: start, d :: s => if c = d then dropStart? start s else none

theorem dropStart?_eq_some {start s rest : List Char} :
    dropStart? start s = some rest ↔ s = start ++ rest := by
  induction start generalizing s with
  | nil => simp [dropStart?, eq_comm]
  | cons c start ih =>
    cases s with
    | nil => simp [dropStart?]
    | cons d s =>
      by_cases h : c = d
      · simp [dropStart?, h, ih]
      · simp [dropStart?, h, Ne.symm h]

/-- The pieces of a text between the characters that satisfy `p`; there is
always at least one. -/
def splitWhere (p : Char → Bool) : List Char → List (List Char)
  | [] => [[]]
  | c :: rest =>
    if p c then [] :: splitWhere p rest
    else
      match splitWhere p rest with
      | [] => [[c]]
      | piece :: more => (c :: piece) :: more

def lines (s : List Char) : List (List Char) := splitWhere (· == '\n') s

/-- Joins pieces with a separator between neighbours. -/
def joinWith (separator : List Char) : List (List Char) → List Char
  | [] => []
  | [piece] => piece
  | piece :: more => piece ++ separator ++ joinWith separator more

end DocComment.Text
