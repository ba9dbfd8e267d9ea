import Telemetry.Store.Database
import Telemetry.Text.Parts

set_option autoImplicit false

/-!
A directory with what a command reads and writes: folders, text files and databases. Names are resolved
folder by folder, but a database is opened under its name with `.` and `..` taken out.
-/

namespace Telemetry.Store

/-- Where something is: the folders from the working directory on, and its name. -/
abbrev Place := List String

inductive Entry where
  | folder
  | text (content : String)
  | database (db : Database)

structure Files where
  entries : List (Place × Entry)

namespace Files

def empty : Files := ⟨[]⟩

/-- The parts of a path. The root of an absolute path is a part of its own. -/
def parts (path : String) : List String :=
  let parts := (Text.splitOn '/' path.toList).map String.ofList
  match parts with
  | "" :: rest => if path.isEmpty then [] else "/" :: rest
  | parts => parts

def isIdle (part : String) : Bool := part.isEmpty || part == "."

def namedParts (path : String) : List String := (parts path).filter (!isIdle ·)

/-- What is at a place. The working directory and the root are folders. -/
def find? (files : Files) (place : Place) : Option Entry :=
  if place = [] ∨ place = ["/"] then some .folder
  else (files.entries.find? (·.1 = place)).map (·.2)

def isFolder (files : Files) (place : Place) : Bool :=
  match files.find? place with
  | some .folder => true
  | _ => false

def put (files : Files) (place : Place) (entry : Entry) : Files :=
  ⟨files.entries.filter (·.1 ≠ place) ++ [(place, entry)]⟩

/-- Follow the parts of a path from a folder; all but the last must be folders. -/
def follow? (files : Files) : Place → List String → Option Place
  | place, [] => some place
  | place, part :: rest =>
    if files.isFolder place then
      if isIdle part then follow? files place rest
      else if part = ".." then follow? files place.dropLast rest
      else follow? files (place ++ [part]) rest
    else none

def place? (files : Files) (path : String) : Option Place :=
  if path.isEmpty then none else files.follow? [] (parts path)

def lookup? (files : Files) (path : String) : Option Entry := (files.place? path).bind files.find?

def hasEntry (files : Files) (path : String) : Bool := (files.lookup? path).isSome

def createFolders? (files : Files) : Place → List String → Option Files
  | _, [] => some files
  | place, part :: rest =>
    if isIdle part then createFolders? files place rest
    else if part = ".." then createFolders? files place.dropLast rest
    else
      let place := place ++ [part]
      match files.find? place with
      | none => createFolders? (files.put place .folder) place rest
      | some .folder => createFolders? files place rest
      | some _ => none

def parentParts (path : String) : List String := (namedParts path).dropLast

def createParent? (files : Files) (path : String) : Option Files :=
  files.createFolders? [] (parentParts path)

def databasePlace (path : String) : Place :=
  (namedParts path).foldl (fun place part =>
    if part = ".." then place.dropLast else place ++ [part]) []

def database (files : Files) (place : Place) : Database :=
  match files.find? place with
  | some (.database db) => db
  | _ => Database.empty

def putDatabase (files : Files) (place : Place) (db : Database) : Files :=
  files.put place (.database db)

/-- What a name gives to a statement: the database there or a new one without tables. A folder or a text
that is not empty is none, and the folder of a new one must be there. -/
def connect (files : Files) (path : String) : Except StorageError (Place × Database) :=
  let place := databasePlace path
  match files.find? place with
  | some (.database db) => .ok (place, db)
  | some (.text content) => if content.isEmpty then .ok (place, Database.blank) else .error .database
  | some .folder => .error .database
  | none => if files.isFolder place.dropLast then .ok (place, Database.blank) else .error .database

def openDatabase (files : Files) (path : String) : Except StorageError (Place × Files) :=
  (files.connect path).map fun (place, db) => (place, files.putDatabase place db.reopen)

def unnamedPlace (files : Files) : Place := ["", toString files.entries.length]

def openUnnamed (files : Files) : Place × Files :=
  (files.unnamedPlace, files.putDatabase files.unnamedPlace Database.empty)

/-- Change the database of a name from outside; also whether that went well. A name without a database gets
one in any case. -/
def alter (files : Files) (path : String) (change : Database → Option Database) : Bool × Files :=
  match files.connect path with
  | .error _ => (false, files)
  | .ok (place, db) => ((change db).isSome, files.putDatabase place ((change db).getD db))

end Files

end Telemetry.Store
