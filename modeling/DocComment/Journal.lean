import DocComment.Data.Assoc
import DocComment.Data.Json.Writer

/-! Structured log records. A record carries named fields; loggers add the
fields bound to them, and a correlation id ties together the records of one
run. -/

namespace DocComment.Journal

inductive Level where
  | debug
  | info
  | warning
  | error
  | critical
  deriving DecidableEq, Repr

namespace Level

def all : List Level := [.debug, .info, .warning, .error, .critical]

def number : Level → Nat
  | .debug => 10
  | .info => 20
  | .warning => 30
  | .error => 40
  | .critical => 50

def name : Level → String
  | .debug => "DEBUG"
  | .info => "INFO"
  | .warning => "WARNING"
  | .error => "ERROR"
  | .critical => "CRITICAL"

def ofName? : String → Option Level
  | "DEBUG" => some .debug
  | "INFO" => some .info
  | "WARNING" => some .warning
  | "WARN" => some .warning
  | "ERROR" => some .error
  | "CRITICAL" => some .critical
  | "FATAL" => some .critical
  | _ => none

/-- The number of a threshold; one name stands for no threshold at all. -/
def threshold? (s : String) : Option Nat :=
  if s = "NOTSET" then some 0 else (ofName? s).map number

/-- A logger without a threshold has that of the root. -/
def effective (own root : Nat) : Nat := if own = 0 then root else own

end Level

abbrev Fields := List (String × Value)

structure Record where
  logger : String
  level : Level
  message : String
  fields : Fields := []
  /-- The names of the fields that hold something with no JSON form. -/
  unwritable : List String := []
  /-- The text of a failure that the record reports. -/
  failure : Option String := none

/-- A logger either writes records as they are or is an adapter that adds the
fields bound to it. -/
structure Logger where
  name : String
  bound : Option Fields := none

/-- An adapter completes the fields of a call without replacing any: first by
its own, then by the correlation id, and at last by an operation and a status
that every record has. -/
def Logger.complete (l : Logger) (correlation : Option String) (fields : Fields) : Fields :=
  match l.bound with
  | none => fields
  | some bound =>
    let fields := bound.foldl (fun fs f => Assoc.insertNew f.1 f.2 fs) fields
    let fields := match correlation with
      | some id => Assoc.insertNew "correlation_id" (.text id) fields
      | none => fields
    Assoc.insertNew "status" (.text "success")
      (Assoc.insertNew "operation" (.text "unknown") fields)

/-- Names that a field of a call may not take, because every record has them. -/
def recordNames : List String :=
  ["name", "msg", "args", "created", "filename", "funcName", "levelname", "levelno", "lineno",
    "module", "msecs", "message", "asctime", "pathname", "process", "processName",
    "relativeCreated", "thread", "threadName", "exc_info", "exc_text", "stack_info"]

/-- The first field whose name is taken. -/
def takenName? (fields : Fields) : Option String :=
  (fields.find? fun f => recordNames.contains f.1).map (·.1)

/-- The record of a call with all its fields, or the name of one that is
taken. -/
def Logger.record (l : Logger) (correlation : Option String) (call : Record) :
    Except String Record :=
  let fields := l.complete correlation call.fields
  match takenName? fields with
  | some name => .error name
  | none => .ok { call with logger := l.name, fields }

/-- Fields that are never written out. -/
def hidden (key : String) : Bool :=
  recordNames.contains key || key == "taskName" || key.startsWith "_"

/-- The members of a log line, the time apart. What has no JSON form is left
out, and the correlation id of the run stands in for one that is missing or
null. -/
def Record.members (r : Record) (correlation : Option String) : Fields :=
  let head : Fields :=
    [("level", .text r.level.name), ("name", .text r.logger), ("message", .text r.message)]
  let fields := r.fields.filter fun f =>
    !hidden f.1 && f.1 != "ts" && !Assoc.contains f.1 head && !r.unwritable.contains f.1
  let all := match correlation with
    | some id =>
      match fields.lookup "correlation_id" with
      | none => fields ++ [("correlation_id", .text id)]
      | some .null => Assoc.insert "correlation_id" (.text id) fields
      | some _ => fields
    | none => fields
  head ++ all ++
    match r.failure with
    | some text => [("exc_info", .text text)]
    | none => []

/-- Fields that a line has to tell if the record has them. -/
def structuredNames : List String := ["correlation_id", "operation", "status", "duration_ms"]

/-- A line of JSON with its members sorted. A record has none if a structured
field cannot be written. -/
def Record.line? (r : Record) (correlation : Option String) (time : String) : Option String :=
  if r.unwritable.any structuredNames.contains then none
  else some (Json.line.write (.object (("ts", .text time) :: r.members correlation)))

/-- The correlation id of the run, and for every open block the id to go back
to, if the block has set one. -/
structure Run where
  correlation : Option String := none
  blocks : List (Option (Option String)) := []

/-- Opening a block with a correlation id makes it that of the run. -/
def Run.enter (r : Run) (fields : Fields) : Run :=
  match fields.lookup "correlation_id" with
  | some (.text id) => { correlation := some id, blocks := some r.correlation :: r.blocks }
  | _ => { r with blocks := none :: r.blocks }

def Run.leave (r : Run) : Run :=
  match r.blocks with
  | [] => r
  | none :: rest => { r with blocks := rest }
  | some previous :: rest => { correlation := previous, blocks := rest }

/-- The logger of a block: what was bound before, and the fields of the block. -/
def Logger.bind (l : Logger) (fields : Fields) : Logger :=
  { l with bound := some (fields.foldl (fun fs f => Assoc.insert f.1 f.2 fs) (l.bound.getD [])) }

end DocComment.Journal
