import DocComment.Command.Run
import Std.Time.Format

/-! The program. It reads the files that a run needs, and then writes what the
run leads to. -/

namespace DocComment.Main

def usage : String :=
  "usage: docletkit parse [-h] [--output FILE] [--pretty] [--config FILE] [--log-level LEVEL] input"

/-- Troubles of no other kind count as a missing file. -/
def trouble : IO.Error → FileTrouble
  | .inappropriateType _ code _ => if code = 20 then .notDirectory else .isDirectory
  | _ => .missing

def readFile (path : Path) : IO (Except FileTrouble (List UInt8)) := do
  try
    let content ← IO.FS.readBinFile path.text
    return .ok content.toList
  catch e => return .error (trouble e)

/-- The variables of the environment that name settings. -/
def environment : IO (List (String × String)) :=
  Settings.Field.all.filterMapM fun field => do
    let name := "DOCLETKIT_" ++ field.name.map Char.toUpper
    return (← IO.getEnv name).map fun value => (name, value)

def newCorrelation : IO String := do
  let bytes ← IO.getRandomBytes 16
  return String.ofList (bytes.toList.flatMap fun b =>
    [Nat.digitChar (b.toNat / 16), Nat.digitChar (b.toNat % 16)])

def finish (correlation : String) (o : Command.Outcome) : IO UInt32 := do
  if let some (path, content) := o.saved then
    IO.FS.writeFile path.text content
  IO.print o.printed
  for record in o.log do
    let now ← Std.Time.PlainDateTime.now
    if let some line := record.line? (some correlation) (now.format "uuuu-MM-dd'T'HH:mm:ss") then
      IO.eprintln line
  if let some problem := o.problem then
    IO.eprintln (problem.render (some 2))
  return o.status.toUInt32

end DocComment.Main

open DocComment in
def main (words : List String) : IO UInt32 := do
  match Command.Arguments.parse words with
  | .error status =>
    (if status = Command.helpStatus then IO.println else IO.eprintln) Main.usage
    return status.toUInt32
  | .ok arguments =>
    let input ← Main.readFile arguments.input
    let config ← arguments.config.mapM Main.readFile
    let correlation ← Main.newCorrelation
    let around : Command.Surroundings :=
      { read := fun path =>
          if path = arguments.input then input else config.getD (.error .missing)
        writeTrouble? := fun _ => none
        environment := ← Main.environment
        correlation }
    match Command.run around arguments with
    | .ok outcome => Main.finish correlation outcome
    | .error fault =>
      IO.eprintln fault.message
      return 1
