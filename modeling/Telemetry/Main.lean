import Std.Time.DateTime.Timestamp
import Telemetry.CommandLine.Run
import Telemetry.Store.Archive
import Telemetry.Uuid

set_option autoImplicit false

namespace Telemetry.Main

open CommandLine (Completion DataFolders Invocation Settings)
open Store (Entry Files)

def numberOf (bytes : ByteArray) : Nat := bytes.toList.foldl (fun n byte => n * 256 + byte.toNat) 0

/-- What stands at a path, none if nothing does. What is no text counts as a folder. -/
def readEntry (path : String) : IO (Option Entry) := do
  try
    return some (Entry.ofText (← IO.FS.readFile path))
  catch
    | .noFileOrDirectory .. => return none
    | _ => return some .folder

def pathOf : List String → String
  | "/" :: parts => "/" ++ "/".intercalate parts
  | parts => "/".intercalate parts

def placesTo (place : List String) : List (List String) :=
  (List.range place.length).map fun count => place.take (count + 1)

def load (files : Files) (path : String) : IO Files := do
  let mut files := files
  for place in placesTo (Files.databasePlace path) do
    if let some entry ← readEntry (pathOf place) then
      files := files.put place entry
  return files

def save (before : Files) (place : List String) (entry : Entry) : IO Unit := do
  match entry with
  | .text _ => return
  | .database db => IO.FS.writeFile (pathOf place) db.json.text
  | .folder => if (before.find? place).isNone then IO.FS.createDirAll (pathOf place)

/-- The path of the database for arguments, none when they do not get that far. -/
def databasePath? (files : Files) (folders : DataFolders) (arguments : List String) : Option String :=
  match Invocation.ofArguments arguments with
  | .error _ => none
  | .ok invocation =>
    let settings := match files.lookup? invocation.settingsPath with
      | some (.text content) => Settings.ofText? content
      | some _ => none
      | none => some {}
    settings.map (·.databasePath folders.defaultDatabase)

def loadAll (folders : DataFolders) (arguments : List String) : IO Files := do
  let files ← match Invocation.ofArguments arguments with
    | .ok invocation => load Files.empty invocation.settingsPath
    | .error _ => pure Files.empty
  match databasePath? files folders arguments with
  | some path => load files path
  | none => return files

def finish (before : Files) (completion : Completion) : IO UInt32 := do
  for (place, entry) in completion.app.files.entries do
    save before place entry
  IO.print completion.output
  match completion.result with
  | .ok () => return 0
  | .error (.usage cause) =>
    let text := if cause = .versionAsked then CommandLine.versionText else cause.kind ++ "\n"
    if cause.exitCode = 0 then IO.print text else IO.eprint text
    return cause.exitCode.toUInt32
  | .error cause =>
    IO.eprintln ("Error: " ++ cause.message)
    return 1

end Telemetry.Main

open Telemetry in
def main (arguments : List String) : IO UInt32 := do
  let folders : CommandLine.DataFolders :=
    ⟨← IO.getEnv "XDG_DATA_HOME", ← IO.getEnv "HOME"⟩
  let files ← Main.loadAll folders arguments
  let seed := Main.numberOf (← IO.getRandomBytes 15)
  let now ← Std.Time.Timestamp.now
  let app : Application := {
    environment := {
      identifier := fun n => Uuid.v4 (seed + n)
      host := ⟨"Linux", "", true, "", "", 1⟩
      answer := fun _ => .noResponse }
    clock := now.toMillisecondsSinceUnixEpoch.val.toNat
    files }
  Main.finish files (CommandLine.run app folders arguments)
