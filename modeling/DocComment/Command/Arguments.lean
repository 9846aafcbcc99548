import DocComment.Path
import DocComment.Text.Digit

/-! The words of a command line. There is one command, `parse`. Long flags may be
shortened as long as one of them is meant, and a value may be joined to its
flag. -/

namespace DocComment.Command

inductive Flag where
  | help
  | output
  | pretty
  | config
  | logLevel
  deriving DecidableEq, Repr

abbrev Spellings := List (List Char × Flag)

/-- The flags before the command. -/
def outerSpellings : Spellings := [("-h".toList, .help), ("--help".toList, .help)]

/-- The flags of the command. -/
def spellings : Spellings :=
  outerSpellings ++
    [("--output".toList, .output), ("-o".toList, .output), ("--pretty".toList, .pretty),
      ("--config".toList, .config), ("--log-level".toList, .logLevel)]

/-- What a word is. A flag is short or long and may have a value joined to it. -/
inductive Word where
  | value
  | flag (f : Flag) (short : Bool) (joined : Option (List Char))
  | unknown
  | ambiguous
  deriving DecidableEq, Repr

/-- A minus sign and digits, perhaps with a point before the last ones. -/
def isNegativeNumber : List Char → Bool
  | '-' :: rest =>
    let isDigit (c : Char) : Bool := (Text.digit? c).isSome
    let whole := rest.takeWhile isDigit
    match rest.drop whole.length with
    | [] => !whole.isEmpty
    | '.' :: tail => !tail.isEmpty && tail.all isDigit
    | _ => false
  | _ => false

/-- The flags that a word with a hyphen may stand for, when it is spelled in none
of the full ways. -/
def shortenedFlags (known : Spellings) (w name : List Char) (joined : Option (List Char)) :
    List Word :=
  known.filterMap fun (spelling, f) =>
    if ['-', '-'].isPrefixOf w then
      if name.isPrefixOf spelling then some (.flag f false joined) else none
    else if spelling = w.take 2 then some (.flag f true (some (w.drop 2)))
    else none

def readWord (known : Spellings) (w : List Char) : Word :=
  match w with
  | '-' :: second :: _ =>
    let name := w.takeWhile (· != '=')
    let joined := if name.length < w.length then some (w.drop (name.length + 1)) else none
    match known.lookup w, joined.bind fun v => (known.lookup name).map fun f => (f, v) with
    | some f, _ => .flag f (second != '-') none
    | none, some (f, v) => .flag f (second != '-') (some v)
    | none, none =>
      match shortenedFlags known w name joined with
      | [word] => word
      | [] => if isNegativeNumber w || w.contains ' ' then .value else .unknown
      | _ => .ambiguous
  | _ => .value

def dashes : String := "--"

/-- The first of the words left is a value. -/
def valueFollows (known : Spellings) : List String → Bool
  | [] => false
  | w :: _ => w != dashes && readWord known w.toList == .value

/-- Whether what is joined to the short flag for help is made of short flags, of
which the last may take a value. -/
def joinsFlags (known : Spellings) (rest : List String) : List Char → Bool
  | [] => true
  | c :: more =>
    match known.lookup ['-', c] with
    | some .help => joinsFlags known rest more
    | some .output => !more.isEmpty || valueFollows known rest
    | _ => false

def helpStatus : Nat := 0

def usageStatus : Nat := 2

/-- The exit status of a flag for help. -/
def help (known : Spellings) (short : Bool) (joined : Option (List Char)) (rest : List String) :
    Nat :=
  match joined with
  | none => helpStatus
  | some [] => usageStatus
  | some flags => if short && joinsFlags known rest flags then helpStatus else usageStatus

/-- The words of the command as far as they have been read. -/
structure Draft where
  input : Option String := none
  output : Option String := none
  pretty : Bool := false
  config : Option String := none
  logLevel : Option String := none
  /-- Whether there was a word that has no place. -/
  misplaced : Bool := false

/-- A first value is the input. -/
def Draft.addValue (d : Draft) (w : String) : Draft :=
  if d.input.isNone then { d with input := some w } else { d with misplaced := true }

def Draft.setFlag (d : Draft) (v : String) : Flag → Draft
  | .output => { d with output := some v }
  | .config => { d with config := some v }
  | .logLevel => { d with logLevel := some v }
  | _ => d

/-- Two hyphens end the flags. They have a place only next to the input. -/
def Draft.finish (d : Draft) (beside : Bool) (rest : List String) : Draft :=
  let d := if beside || d.input.isNone then d else { d with misplaced := true }
  rest.foldl Draft.addValue d

/-- Reads the words in order. An error is the status to exit with. -/
def Draft.read (d : Draft) : List String → Except Nat Draft
  | [] => .ok d
  | w :: rest =>
    if w = dashes then .ok (d.finish false rest)
    else
      match readWord spellings w.toList with
      | .value =>
        match rest with
        | next :: more =>
          if d.input.isNone && next = dashes then .ok ((d.addValue w).finish true more)
          else (d.addValue w).read (next :: more)
        | [] => .ok (d.addValue w)
      | .unknown => ({ d with misplaced := true } : Draft).read rest
      | .ambiguous => .error usageStatus
      | .flag .help short joined => .error (help spellings short joined rest)
      | .flag .pretty _ joined =>
        if joined.isNone then ({ d with pretty := true } : Draft).read rest else .error usageStatus
      | .flag f _ (some v) => (d.setFlag (String.ofList v) f).read rest
      | .flag f _ none =>
        match rest with
        | v :: more =>
          if valueFollows spellings (v :: more) then (d.setFlag v f).read more
          else .error usageStatus
        | [] => .error usageStatus

/-- A run of the command as it was asked for. An empty log level counts as
none. -/
structure Arguments where
  input : Path
  output : Option Path := none
  pretty : Bool := false
  config : Option Path := none
  logLevel : Option String := none
  deriving DecidableEq, Repr

def commandName : String := "parse"

/-- The words after the name of the command. -/
def readCommand (words : List String) : Except Nat Arguments := do
  let flags := words.takeWhile (· != dashes)
  if flags.any fun w => readWord spellings w.toList == .ambiguous then throw usageStatus
  let d ← ({} : Draft).read words
  match d.input with
  | none => throw usageStatus
  | some input =>
    if d.misplaced then throw usageStatus
    return {
      input := Path.parse input
      output := d.output.map Path.parse
      pretty := d.pretty
      config := d.config.map Path.parse
      logLevel := d.logLevel.filter (· != "") }

/-- All words. An unknown flag before the command is an error, which help for the
command comes before. -/
def Arguments.parse : List String → Except Nat Arguments
  | [] => .error usageStatus
  | w :: rest =>
    match readWord outerSpellings w.toList with
    | .value => if w = commandName then readCommand rest else .error usageStatus
    | .flag _ short joined => .error (help outerSpellings short joined rest)
    | .ambiguous => .error usageStatus
    | .unknown =>
      if w = dashes then .error usageStatus
      else
        match Arguments.parse rest with
        | .error status => .error status
        | .ok _ => .error usageStatus

end DocComment.Command
