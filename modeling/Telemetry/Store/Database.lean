import Telemetry.Error
import Telemetry.Store.Table

set_option autoImplicit false

namespace Telemetry.Store

/-- A table that may be missing, and one that was renamed away. -/
structure Shelf (α : Type) where
  present : Option α
  aside : Option α

namespace Shelf

variable {α : Type}

def new (value : α) : Shelf α := ⟨some value, none⟩

def putAside? (shelf : Shelf α) : Option (Shelf α) :=
  match shelf.present, shelf.aside with
  | some value, none => some ⟨none, some value⟩
  | _, _ => none

def putBack? (shelf : Shelf α) : Option (Shelf α) :=
  match shelf.present, shelf.aside with
  | none, some value => some ⟨some value, none⟩
  | _, _ => none

def ensure (shelf : Shelf α) (value : α) : Shelf α :=
  { shelf with present := some (shelf.present.getD value) }

def write? (shelf : Shelf α) (change : α → α) : Except StorageError (Shelf α) :=
  match shelf.present with
  | some value => .ok { shelf with present := some (change value) }
  | none => .error .database

end Shelf

structure Database where
  events : Shelf Table
  /-- The cell of the session record; other rows of its table are never read. -/
  session : Shelf (Option Cell)

instance : Inhabited Database := ⟨⟨Shelf.new Table.empty, Shelf.new none⟩⟩

namespace Database

def empty : Database := ⟨Shelf.new Table.empty, Shelf.new none⟩

def blank : Database := ⟨⟨none, none⟩, ⟨none, none⟩⟩

def reopen (db : Database) : Database :=
  ⟨db.events.ensure Table.empty, db.session.ensure none⟩

def rows (db : Database) : List Row := (db.events.present.map (·.rows)).getD []

def add (db : Database) (payload : Payload) : Except StorageError Database :=
  (db.events.write? fun table => table.push (.text payload.text)).map fun events =>
    { db with events }

def addAll (db : Database) (payloads : List Payload) : Except StorageError Database :=
  payloads.foldlM add db

def count (db : Database) : Except StorageError Nat :=
  match db.events.present with
  | some table => .ok table.size
  | none => .error .database

/-- A statement takes at most this many identifiers. -/
def maxParameters : Nat := 32766

/-- Delete rows by identifier. An empty list needs no statement. -/
def delete (db : Database) (ids : List Int) : Except StorageError Database :=
  if ids.isEmpty then .ok db
  else if maxParameters < ids.length then .error .database
  else (db.events.write? (·.remove ids)).map fun events => { db with events }

def deleteAll (db : Database) : Except StorageError Database :=
  (db.events.write? fun _ => Table.empty).map fun events => { db with events }

/-- A limit of rows as the statement takes it: a signed 64-bit number, where a negative one is no limit. -/
def rowLimit (limit : Nat) : Option Nat :=
  let signed := signedWord limit
  if signed < 0 then none else some signed.toNat

def oldest (limit : Option Nat) (rows : List Row) : List Row :=
  match limit with
  | none => rows
  | some n => rows.take n

/-- Read the oldest rows and delete those that hold no payload; when that leaves none of those read, read
again. The last argument bounds the number of reads by the number of rows. -/
def readRows (limit : Option Nat) : Nat → Database → Except StorageError (List EventRow) × Database
  | 0, db => (.ok [], db)
  | fuel + 1, db =>
    match db.events.present with
    | none => (.error .database, db)
    | some table =>
      let batch := oldest limit table.rows
      if batch.any (·.isBlob) then (.error .database, db)
      else
        let found := readableRows batch
        let unreadable := unreadableIds batch
        match db.delete unreadable with
        | .error cause => (.error cause, db)
        | .ok db =>
          if !found.isEmpty || unreadable.isEmpty then (.ok found, db)
          else readRows limit fuel db

def batch (db : Database) (limit : Nat) : Except StorageError (List EventRow) × Database :=
  readRows (rowLimit limit) (db.rows.length + 1) db

def all (db : Database) : Except StorageError (List EventRow) × Database :=
  readRows none (db.rows.length + 1) db

/-- The stored record. Text that is not JSON is an error of its own. -/
def getSession (db : Database) : Except StorageError (Option Json) :=
  match db.session.present with
  | none => .error .database
  | some none => .ok none
  | some (some (.blob _)) => .error .database
  | some (some (.text value)) =>
    match Json.ofText? value with
    | some record => .ok (some record)
    | none => .error .serialization

def setSession (db : Database) (record : Json) : Except StorageError Database :=
  (db.session.write? fun _ => some (.text record.text)).map fun session => { db with session }

def deleteSession (db : Database) : Except StorageError Database :=
  (db.session.write? fun _ => none).map fun session => { db with session }

/-- Insert a row of any contents, under a free identifier if one is given. -/
def insertRow? (db : Database) (id : Option Int) (cell : Cell) : Option Database :=
  db.events.present.bind fun table =>
    let changed := match id with
      | none => some (table.push cell)
      | some id => table.insert? ⟨id, cell⟩
    changed.map fun table => { db with events := { db.events with present := some table } }

/-- Put any text into the row of the session table with an identifier; only the first row is read. -/
def putSessionRow? (db : Database) (id : Int) (value : String) : Option Database :=
  db.session.present.map fun cell =>
    let cell := if id = 1 then some (.text value) else cell
    { db with session := { db.session with present := some cell } }

end Database

inductive TableName where
  | events
  | sessions
  deriving DecidableEq, Repr

def TableName.ofText? : String → Option TableName
  | "events" => some .events
  | "sessions" => some .sessions
  | _ => none

def Database.hide? (db : Database) : TableName → Option Database
  | .events => db.events.putAside?.map fun events => { db with events }
  | .sessions => db.session.putAside?.map fun session => { db with session }

def Database.restore? (db : Database) : TableName → Option Database
  | .events => db.events.putBack?.map fun events => { db with events }
  | .sessions => db.session.putBack?.map fun session => { db with session }

end Telemetry.Store
