import DocComment.Data.Toml.Document
import DocComment.Fault
import DocComment.Path
import DocComment.Settings.Coerce
import DocComment.Text.Utf8

/-! Loading settings: values given by the caller go before those of a file, and
these before variables of the environment. -/

namespace DocComment.Settings

/-- The member of a table, an empty table when there is none. -/
def tableAt (key : String) : Value → Value
  | .object table => (table.lookup key).getD (.object [])
  | _ => .object []

/-- Keys may be written with hyphens. -/
def underscored (key : String) : String :=
  key.map fun c => if c = '-' then '_' else c

/-- The values in the settings table of a document. -/
def ofDocument (path : String) (document : Toml.Table) : Except Fault (List (String × Value)) :=
  match tableAt "docletkit" (tableAt "tool" (.object document)) with
  | .object table => .ok (Assoc.ofPairs (table.map fun (key, v) => (underscored key, v)))
  | _ => .error (.configNotTable path)

/-- The values in a file that was found or not. -/
def ofFile (path : String) (content : Except FileTrouble (List UInt8)) :
    Except Fault (List (String × Value)) :=
  match content with
  | .error why => .error (.configUnreadable path why)
  | .ok bytes =>
    match Text.Utf8.decode? bytes with
    | none => .error .undecodable
    | some cs =>
      match Toml.parse (String.ofList cs) with
      | none => .error (.configMalformed path)
      | some document => ofDocument path document

/-- Settings from an optional file, given values and the environment. -/
def load (file : Option (Path × Except FileTrouble (List UInt8)))
    (given : List (String × Value)) (environment : List (String × String)) :
    Except Fault Settings := do
  let path := file.map (·.1.text)
  let values ← match file with
    | none => pure []
    | some (p, content) => ofFile p.text content
  let values := given.foldl (fun table v => Assoc.insert v.1 v.2 table) values
  match collect values (ofEnvironment environment) with
  | .ok settings => return settings
  | .error count => throw (.settingsInvalid count path)

end DocComment.Settings
