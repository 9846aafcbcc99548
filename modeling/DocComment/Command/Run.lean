import DocComment.Command.Arguments
import DocComment.Command.Batch
import DocComment.Doclet.Encode
import DocComment.Settings.Load

/-! A run of the command: settings are loaded, the batch is read and built, and
its doclets are written out. A fault with a report is logged and shown as a
problem; any other stops the run without an outcome. -/

namespace DocComment.Command

/-- What a run finds around it. -/
structure Surroundings where
  read : Path → Except FileTrouble (List UInt8)
  /-- Why a file cannot be written, if it cannot. -/
  writeTrouble? : Path → Option FileTrouble
  environment : List (String × String) := []
  correlation : String

structure Outcome where
  status : Nat
  /-- What goes to the standard output. -/
  printed : String := ""
  /-- The file that is written. -/
  saved : Option (Path × String) := none
  log : List Journal.Record := []
  problem : Option Problem := none

def loggerName : String := "docletkit.cli"

/-- A record completed by a logger that is part of the run. -/
def completed (correlation : String) (bound : Journal.Fields) (r : Journal.Record) :
    Journal.Record :=
  let logger : Journal.Logger := ⟨r.logger, some bound⟩
  { r with fields := logger.complete (some correlation) r.fields }

/-- The record of a run that failed. -/
def failure (r : Report) : Journal.Record where
  logger := loggerName
  level := (Journal.Level.all.find? (·.number == r.cls.level)).getD .error
  message := "Command failed"
  fields :=
    [("operation", .text commandName), ("status", .text "error"), ("error", .text r.text)]

/-- The record of a run that succeeded. -/
def success (input : Path) (count : Nat) : Journal.Record where
  logger := loggerName
  level := .info
  message := "Built doclets"
  fields := [("count", .int count), ("input", .text input.text)]

/-- Ends a run by a fault. Without a threshold nothing is logged yet. -/
def fail (correlation : String) (threshold : Option Nat) (notes : List Journal.Record)
    (fault : Fault) : Except Fault Outcome :=
  match fault.report? with
  | none => .error fault
  | some r =>
    let records := notes ++ [completed correlation [] (failure r)]
    .ok
      { status := 1
        log := match threshold with
          | none => []
          | some n => records.filter fun record => n ≤ record.level.number
        problem := some (r.problem
          (some ("urn:docletkit:" ++ commandName ++ ":" ++ correlation)) none) }

/-- Ends a run by writing out the doclets. -/
def deliver (around : Surroundings) (a : Arguments) (threshold : Nat)
    (notes : List Journal.Record) (docs : List Doclet) : Except Fault Outcome :=
  let text := Doclet.encodeAll docs a.pretty ++ "\n"
  let bound : Journal.Fields :=
    [("correlation_id", .text around.correlation), ("operation", .text commandName)]
  let records := notes ++ [completed around.correlation bound (success a.input docs.length)]
  let log := records.filter fun record => threshold ≤ record.level.number
  match a.output with
  | none => .ok { status := 0, printed := text, log }
  | some path =>
    match around.writeTrouble? path with
    | some why => .error (.outputTrouble path.text why)
    | none => .ok { status := 0, saved := some (path, text), log }

def run (around : Surroundings) (a : Arguments) : Except Fault Outcome :=
  let id := around.correlation
  match Settings.load (a.config.map fun p => (p, around.read p)) [] around.environment with
  | .error fault => fail id none [] fault
  | .ok settings =>
    let level := a.logLevel.getD settings.logLevel
    match Journal.Level.threshold? level with
    | none => .error (.unknownLevel level)
    | some threshold =>
      match Batch.entries a.input (around.read a.input) with
      | .error fault => fail id (some threshold) [] fault
      | .ok entries =>
        let built := Batch.build { settings } entries
        let notes := built.notes.map (completed id [])
        match built.fault with
        | some fault => fail id (some threshold) notes fault
        | none => deliver around a threshold notes built.doclets

end DocComment.Command
