import DocComment.Data.Json.Reader
import DocComment.Data.Yaml.Cursor

/-! The texts of YAML scalars in their forms: plain, in quotes, and as blocks of
lines. Single line breaks inside a text count as spaces, except in literal
blocks. -/

namespace DocComment.Yaml

/-- A line break and those of the empty lines after it: a single one becomes a
space. -/
def fold (first : Char) (more : List Char) : List Char :=
  if first != '\n' then first :: more else if more.isEmpty then [' '] else more

/-- Lines of blanks inside quotes, where no document may end. -/
def quotedBreaks : Nat → Cursor → Option (List Char × Cursor)
  | 0, _ => none
  | fuel + 1, c =>
    if startsMarker c.rest then none
    else
      let c := c.skipWhile isBlank
      match c.lineBreak? with
      | some (b, c) => (quotedBreaks fuel c).map fun (more, c) => (b :: more, c)
      | none => some ([], c)

def escape? : Char → Option Char
  | '0' => some (Char.ofNat 0)
  | 'a' => some (Char.ofNat 7)
  | 'b' => some (Char.ofNat 8)
  | 't' => some '\t'
  | '\t' => some '\t'
  | 'n' => some '\n'
  | 'v' => some (Char.ofNat 11)
  | 'f' => some (Char.ofNat 12)
  | 'r' => some '\r'
  | 'e' => some (Char.ofNat 27)
  | ' ' => some ' '
  | '"' => some '"'
  | '\\' => some '\\'
  | '/' => some '/'
  | 'N' => some (Char.ofNat 0x85)
  | '_' => some (Char.ofNat 0xA0)
  | 'L' => some (Char.ofNat 0x2028)
  | 'P' => some (Char.ofNat 0x2029)
  | _ => none

/-- How many digits the code of an escaped character has. -/
def codeLength? : Char → Option Nat
  | 'x' => some 2
  | 'u' => some 4
  | 'U' => some 8
  | _ => none

/-- What an escape stands for, read after its backslash. -/
def escaped (c : Cursor) : Option (List Char × Cursor) :=
  match c.rest with
  | [] => none
  | ch :: rest =>
    match escape? ch, codeLength? ch with
    | some e, _ => some ([e], c.step)
    | none, some count =>
      match Json.readHex count rest with
      | .ok (n, _) =>
        if n < 0xD800 || (0xE000 ≤ n && n < 0x110000) then
          some ([Char.ofNat n], c.advance (count + 1))
        else none
      | .error _ => none
    | none, none =>
      match c.lineBreak? with
      | some (_, c) => quotedBreaks c.fuel c
      | none => none

/-- The rest of a scalar after its opening quote. -/
def quoted (double : Bool) : Nat → Cursor → Option (List Char × Cursor)
  | 0, _ => none
  | fuel + 1, c =>
    match c.rest with
    | [] => none
    | ch :: rest =>
      let go (text : List Char) (c : Cursor) : Option (List Char × Cursor) :=
        (quoted double fuel c).map fun (more, c) => (text ++ more, c)
      if isBlank ch || isBreak ch then
        let blanks := c.rest.takeWhile isBlank
        let after := c.advance blanks.length
        match after.lineBreak? with
        | some (b, after) => do
          let (more, after) ← quotedBreaks after.fuel after
          go (fold b more) after
        | none => go blanks after
      else if double then
        if ch = '"' then some ([], c.step)
        else if ch = '\\' then (escaped c.step).bind fun (text, c) => go text c
        else go [ch] c.step
      else if ch = '\'' then
        if rest.head? == some '\'' then go ['\''] (c.advance 2) else some ([], c.step)
      else go [ch] c.step

/-- The characters of a plain scalar up to a blank, a line break, or a sign that
ends it. -/
def plainRun (flow : Bool) : List Char → List Char
  | [] => []
  | ch :: rest =>
    let ends := isBreak ch || isBlank ch ||
      (ch == ':' &&
        (endsWord rest || (flow && rest.head?.any (",[]\x7b\x7d".toList.contains ·)))) ||
      (flow && ",?[]\x7b\x7d".toList.contains ch)
    if ends then [] else ch :: plainRun flow rest

/-- Spaces and line breaks up to the next text; none when a document ends. -/
def plainBreaks : Nat → Cursor → Option (List Char) × Cursor
  | 0, c => (some [], c)
  | fuel + 1, c =>
    let c := c.skipWhile (· == ' ')
    match c.lineBreak? with
    | none => (some [], c)
    | some (b, c) =>
      if startsMarker c.rest then (none, c)
      else
        let (more, c) := plainBreaks fuel c
        (more.map (b :: ·), c)

/-- What stands between two runs, whether the line ends there, and the place
after it. -/
def plainGap (c : Cursor) : List Char × Bool × Cursor :=
  let spaces := c.rest.takeWhile (· == ' ')
  let after := c.advance spaces.length
  match after.lineBreak? with
  | none => (spaces, false, after)
  | some (b, after) =>
    if startsMarker after.rest then ([], true, after)
    else
      match plainBreaks after.fuel after with
      | (none, after) => ([], true, after)
      | (some more, after) => (fold b more, true, after)

/-- A plain scalar, which goes on over lines indented by at least `indent`. The
flag tells whether the line ended after it. -/
def plain (flow : Bool) (indent : Nat) :
    Nat → List Char → Bool → Cursor → List Char × Bool × Cursor
  | 0, _, ended, c => ([], ended, c)
  | fuel + 1, gap, ended, c =>
    let run := if c.rest.head? == some '#' then [] else plainRun flow c.rest
    if run.isEmpty then ([], ended, c)
    else
      let (next, ended, after) := plainGap (c.advance run.length)
      if next.isEmpty || after.rest.head? == some '#' || (!flow && after.column < indent) then
        (gap ++ run, ended, after)
      else
        let (more, ended, c) := plain flow indent fuel next ended after
        (gap ++ run ++ more, ended, c)

/-- What becomes of the line breaks at the end of a block. -/
inductive Chomping where
  | strip
  | clip
  | keep
  deriving DecidableEq, Repr

def chomping? : Char → Option Chomping
  | '-' => some .strip
  | '+' => some .keep
  | _ => none

def indentDigit? (ch : Char) : Option Nat :=
  if Json.isDigit ch then some (ch.toNat - '0'.toNat) else none

/-- The signs after the one that opens a block: what becomes of the end, and by
how much the lines are indented. They come in any order. -/
def blockSigns (c : Cursor) : Option (Chomping × Option Nat × Cursor) := do
  let first := c.rest.head?
  let second := c.rest.tail.head?
  let (chomp, width, c) := match first.bind chomping?, first.bind indentDigit? with
    | some chomp, _ =>
      match second.bind indentDigit? with
      | some n => (chomp, some n, c.advance 2)
      | none => (chomp, none, c.step)
    | none, some n =>
      match second.bind chomping? with
      | some chomp => (chomp, some n, c.advance 2)
      | none => (Chomping.clip, some n, c.step)
    | none, none => (Chomping.clip, none, c)
  if width = some 0 || !endsPart c.rest then none else some (chomp, width, c)

/-- The breaks of lines that have nothing from column `indent` on. -/
def blockBreaks (indent : Nat) : Nat → Cursor → List Char × Cursor
  | 0, c => ([], c)
  | fuel + 1, c =>
    let spaces := (c.rest.takeWhile (· == ' ')).length
    let c := c.advance (min spaces (indent - c.column))
    match c.lineBreak? with
    | none => ([], c)
    | some (b, c) =>
      let (more, c) := blockBreaks indent fuel c
      (b :: more, c)

/-- The breaks of empty lines before a block, and the deepest column that the
spaces reach. -/
def blockStart : Nat → Nat → Cursor → List Char × Nat × Cursor
  | 0, deepest, c => ([], deepest, c)
  | fuel + 1, deepest, c =>
    let spaces := (c.rest.takeWhile (· == ' ')).length
    let c := c.advance spaces
    let deepest := if spaces = 0 then deepest else max deepest c.column
    match c.lineBreak? with
    | none => ([], deepest, c)
    | some (b, c) =>
      let (more, deepest, c) := blockStart fuel deepest c
      (b :: more, deepest, c)

/-- The lines of a block after the breaks given: their text, the last break, the
breaks after it, and the place behind. -/
def blockLines (folded : Bool) (indent : Nat) :
    Nat → List Char → Cursor → List Char × List Char × List Char × Cursor
  | 0, breaks, c => ([], [], breaks, c)
  | fuel + 1, breaks, c =>
    if c.column = indent && !c.rest.isEmpty then
      let line := c.rest.takeWhile (!isBreak ·)
      let after := c.advance line.length
      let (last, after) := match after.lineBreak? with
        | some (b, after) => ([b], after)
        | none => ([], after)
      let (more, after) := blockBreaks indent after.fuel after
      if after.column = indent && !after.rest.isEmpty then
        let joins := folded && last == ['\n'] && !c.rest.head?.any isBlank &&
          !after.rest.head?.any isBlank
        let joint := if !joins then last else if more.isEmpty then [' '] else []
        let (text, last, tail, c) := blockLines folded indent fuel more after
        (breaks ++ line ++ joint ++ text, last, tail, c)
      else (breaks ++ line, last, more, after)
    else ([], [], breaks, c)

/-- A block scalar after its opening sign, inside a collection whose own indent
ends before column `least`. -/
def block (folded : Bool) (least : Nat) (c : Cursor) : Option (List Char × Cursor) := do
  let (chomp, width, c) ← blockSigns c
  let c ← c.endLine?
  let least := max 1 least
  let (indent, breaks, c) := match width with
    | some n =>
      let indent := least + n - 1
      let (breaks, c) := blockBreaks indent c.fuel c
      (indent, breaks, c)
    | none =>
      let (breaks, deepest, c) := blockStart c.fuel 0 c
      (max least deepest, breaks, c)
  let (text, last, tail, c) := blockLines folded indent c.fuel breaks c
  let ending := match chomp with
    | .strip => []
    | .clip => last
    | .keep => last ++ tail
  return (text ++ ending, c)

end DocComment.Yaml
