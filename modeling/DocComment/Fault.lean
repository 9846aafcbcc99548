import DocComment.Longname
import DocComment.Problem
import DocComment.Source
import DocComment.Text.Digit

/-! Everything that can go wrong, as causes, and the one place where their
wording is decided. -/

namespace DocComment

/-- Why a file could not be read or written. -/
inductive FileTrouble where
  | missing
  | isDirectory
  | notDirectory
  deriving DecidableEq, Repr

inductive Fault where
  /-- A scope that does not exist, in a doclet of that file. -/
  | scope (given : String) (file : String)
  | titleTaken (title : String) (taken : List String)
  | source (e : SourceError)
  | settingsInvalid (count : Nat) (path : Option String)
  | configUnreadable (path : String) (why : FileTrouble)
  | configMalformed (path : String)
  | configNotTable (path : String)
  | inputUnreadable (path : String) (why : FileTrouble)
  | inputMalformed (path : String) (cause : String)
  | inputNotEntries (path : String)
  | commentNotText (index : Nat)
  /-- A number with more digits than can be read or written; reading counts them. -/
  | numeralTooLong (digits : Option Nat)
  /-- The type of an interface member was given as mere text. -/
  | memberTypeText
  /-- Bytes that are no UTF-8. -/
  | undecodable
  | unknownLevel (name : String)
  | unknownCode (text : String)
  /-- A log call with a field that every record has. -/
  | fieldTaken (name : String)
  | outputTrouble (path : String) (why : FileTrouble)

def FileTrouble.cause : FileTrouble → String
  | .missing => "FileNotFoundError"
  | .isDirectory => "IsADirectoryError"
  | .notDirectory => "NotADirectoryError"

def FileTrouble.message (path : String) : FileTrouble → String
  | .missing => "[Errno 2] No such file or directory: " ++ Text.quote path
  | .isDirectory => "[Errno 21] Is a directory: " ++ Text.quote path
  | .notDirectory => "[Errno 20] Not a directory: " ++ Text.quote path

namespace Fault

def atPath (path : String) : List (String × Value) := [("path", .text path)]

/-- The report of a fault that is reported with a class and a context. -/
def report? : Fault → Option Report
  | scope given file => some (.invalidScope given (Scope.all.map (·.name)) (some file))
  | titleTaken title taken =>
    some
      { cls := .tagDefinition
        message := "Tag title already defined: " ++ String.intercalate ", " taken
        context := [("title", .text title), ("conflicts", Value.texts taken)] }
  | source (.mismatch e) =>
    some
      { cls := .inputDecode
        message := "Invalid source metadata: " ++ e.message
        context := [("error", .text e.message)]
        cause := some "ValidationError" }
  | source .twinGiven =>
    some
      { cls := .inputDecode
        message := "Twin doclets cannot be given as plain data"
        context := [("error", .text "meta.doclet must be a Doclet"), ("field", .text "doclet")] }
  | settingsInvalid count path =>
    some
      { cls := .configuration
        message := "Configuration validation failed: " ++ toString count ++ " error(s)"
        context := [("path", Value.ofText? path)]
        cause := some "ValidationError" }
  | configUnreadable path why =>
    some
      { cls := .configuration
        message := "Unable to read configuration file " ++ path
        context := atPath path
        cause := some why.cause }
  | configMalformed path =>
    some
      { cls := .configuration
        message := "Invalid TOML in configuration file " ++ path
        context := atPath path
        cause := some "TOMLDecodeError" }
  | configNotTable path =>
    some
      { cls := .configuration
        message := "[tool.docletkit] in " ++ path ++ " must be a table"
        context := atPath path }
  | inputUnreadable path why =>
    some
      { cls := .inputDecode
        message := "Unable to read input file " ++ path
        context := atPath path
        cause := some why.cause }
  | inputMalformed path cause =>
    some
      { cls := .inputDecode
        message := "Input file " ++ path ++ " is not valid JSON or YAML"
        context := atPath path
        cause := some cause }
  | inputNotEntries path =>
    some
      { cls := .inputDecode
        message := "Input file " ++ path ++ " must contain a list of \x7bcomment, meta\x7d entries"
        context := atPath path }
  | commentNotText index =>
    some
      { cls := .inputDecode
        message := "Entry comment must be a string"
        context := [("index", .int index)] }
  | numeralTooLong _ | memberTypeText | undecodable | unknownLevel _ | unknownCode _
  | fieldTaken _ | outputTrouble _ _ => none

/-- The message of any fault. -/
def message : Fault → String
  | numeralTooLong digits =>
    "Exceeds the limit (" ++ toString Text.maxNumeral ++
      " digits) for integer string conversion" ++
      (match digits with
        | some n => ": value has " ++ toString n ++ " digits"
        | none => "") ++
      "; use sys.set_int_max_str_digits() to increase the limit"
  | memberTypeText => "'str' object has no attribute 'names'"
  | unknownLevel name => "Unknown level: " ++ Text.quote name
  | unknownCode text => Text.quote text ++ " is not a valid ErrorCode"
  | fieldTaken name => "Attempt to overwrite " ++ Text.quote name ++ " in LogRecord"
  | outputTrouble path why => why.message path
  | f => (f.report?.map (·.message)).getD ""

end Fault

end DocComment
