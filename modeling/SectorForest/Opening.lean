import SectorForest.Files
import SectorForest.Schema
import SectorForest.Storage.Address

/-!
# Opening a database

A database is opened in memory or at an address, brought in order (references are kept, the time to
wait for other writers is set) and migrated to the current schema. Opening is told in events: one
when it starts and one when it ends. A database without a file is gone when it is closed.
-/

namespace SectorForest

open Storage

/-- The settings of a new connection. -/
structure OpenSettings where
  /-- How long to wait for another writer, in milliseconds. -/
  busyTimeout : Nat := 5000
  deriving DecidableEq, Repr, Inhabited

/-- The longest time to wait that a connection can be told, in milliseconds. -/
def longestBusyTimeout : Nat := 2147483647

/-- Why there is no open database. -/
inductive OpenFailure where
  | refused (error : DatabaseError)
  /-- The time to wait is longer than a connection can be told. -/
  | timeoutTooLong
  deriving DecidableEq, Repr, Inhabited

/-- The outcome of opening a database. -/
structure Opening where
  result : Except OpenFailure Connection
  /-- The place of the database's file, if it has one. -/
  place : Option Location := none
  files : Files
  /-- The events on the way, in order. -/
  events : List Event

/-- Bring a new connection in order and migrate its database. -/
def prepareConnection (settings : OpenSettings) (c : Connection) :
    Except OpenFailure Unit × Connection :=
  if longestBusyTimeout < settings.busyTimeout then (.error .timeoutTooLong, c)
  else
    let (result, c) :=
      Schema.migrate { c with foreignKeys := true, busyTimeout := settings.busyTimeout }
    (result.mapError .refused, c)

/-- The event that tells of the end of opening; a crash is told elsewhere. -/
def openingEnd (medium : Medium) (stage : OpenStage) : Except OpenFailure Unit → List Event
  | .ok () => [.opened medium]
  | .error (.refused error) => [.openFailed medium stage error]
  | .error .timeoutTooLong => []

/-- Prepare a connection and tell how it went. -/
def prepareTold (medium : Medium) (settings : OpenSettings) (c : Connection) :
    Except OpenFailure Unit × Connection × List Event :=
  let (result, c) := prepareConnection settings c
  (result, c, .openStarted medium :: openingEnd medium .prepare result)

/-- Open a database in memory. -/
def openInMemory (files : Files) : Opening :=
  let (result, c, events) := prepareTold .memory {} {}
  { result := result.map fun () => c, files, events }

/-! ## Places of databases -/

/-- The size of the path to a place from the root, in bytes. -/
def pathSize (place : Location) : Nat :=
  place.foldl (fun size name => size + 1 + name.utf8ByteSize) 0

/-- The least size of a path that cannot be written down on the way to a database. -/
def tooLongOnTheWay : Nat := 512

/-- The greatest size of the path of a database. -/
def longestPlace : Nat := 504

/-- Whether a place on the way to a database can be looked at. There need not be anything. -/
def canBeSeen (files : Files) (place : Location) : Bool :=
  pathSize place < tooLongOnTheWay &&
    match files.follow [] place with
    | .ok _ | .error .notFound => true
    | .error _ => false

/-- Take one step of the path of a database. The steps `.` and `..` are taken by the text alone. -/
def placeStep (files : Files) (place : Location) (step : String) : Option Location :=
  if step = "." then some place
  else if step = ".." then some place.dropLast
  else if canBeSeen files (place ++ [step]) then some (place ++ [step])
  else none

/-- The place that the path of a database leads to. It cannot be the root. -/
def databasePlace? (files : Files) (directory : Location) (path : String) : Option Location := do
  let place ← (pathSteps path).foldlM (placeStep files) (pathStart path directory)
  if place.isEmpty || longestPlace < pathSize place then none else some place

/-- Whether a name is too long to make another one from it by adding some bytes. -/
def lacksRoom (place : Location) (added : Nat) : Bool :=
  longestName < (place.getLastD "").utf8ByteSize + added

/-- Why nothing can be written to the file at a place: it is for reading only, or its name leaves no
room for that of the file that keeps what a change undoes. -/
def obstacleAt (address : Address) (place : Location) : Option Fault :=
  if address.isReadOnly then some .readOnly
  else if lacksRoom place 8 then some .noJournal
  else none

/-- The position of the first zero byte of a text, if it has one. -/
def zeroByte? (text : String) : Option Nat :=
  text.toUTF8.toList.findIdx? (· == 0)

/-- The content of a database's file; or why it is none. -/
def readDatabase : FileContent → Except Fault Database
  | .database database => .ok database
  | .bytes content => if content.isEmpty then .ok {} else .error .notDatabase
  | .log lines => if lines.isEmpty then .ok {} else .error .notDatabase

/-- The place of the file at an address, which is created if there is none and the access is for
that; or why there is no file to open. `text` is what names the place in a message. -/
def reach (files : Files) (directory : Location) (text : String) (address : Address) :
    Except Fault (Location × Files) :=
  match databasePlace? files directory address.path with
  | none => .error (.cannotOpen text)
  | some place =>
    if address.permissionsOf.any fun path => !files.leadsTo directory path then .error .unreadable
    else if files.isDirectory place then
      .error (if address.access == .read then .unreadable else .cannotOpen text)
    else if (files.file? place).isSome then .ok (place, files)
    else if files.isDirectory place.dropLast && address.access == .create then
      .ok (place, files.put place (.database {}))
    else .error (.cannotOpen text)

/-- The database in the file at a place; or why there is nothing to prepare. -/
def lookInto (files : Files) (address : Address) (place : Location) : Except Fault Database :=
  if address.isLockedBeside && lacksRoom place 5 then .error .unreadable
  else ((files.file? place).map readDatabase).getD (.ok {})

/-- Open the database at an address, which `text` spells out, and migrate it. What the migration
does goes into the file. -/
def openAddress (files : Files) (directory : Location) (text : String) (address : Address)
    (settings : OpenSettings) : Opening :=
  if address.isMemory then
    let obstacle := if address.isReadOnly then some .readOnly else none
    let (result, c, events) := prepareTold .file settings { obstacle }
    { result := result.map fun () => c, files, events }
  else
    match reach files directory text address with
    | .error fault => unreachable files fault
    | .ok (place, files) =>
      match lookInto files address place with
      | .error fault =>
        if longestBusyTimeout < settings.busyTimeout then
          { result := .error .timeoutTooLong, files, events := [.openStarted .file] }
        else
          { result := .error (.refused (.storage fault))
            files
            events := [.openStarted .file, .openFailed .file .prepare (.storage fault)] }
      | .ok database =>
        let (result, c, events) :=
          prepareTold .file settings
            { database
              contended := files.contended.contains place
              obstacle := obstacleAt address place }
        { result := result.map fun () => c
          place := some place
          files := files.put place (.database c.database)
          events }
where
  /-- The outcome when there is no database to prepare. -/
  unreachable (files : Files) (fault : Fault) : Opening :=
    { result := .error (.refused (.storage fault))
      files
      events := [.openStarted .file, .openFailed .file .reach (.storage fault)] }

/-- Open the database at the address that a text spells out, and migrate it. -/
def openFile (files : Files) (directory : Location) (text : String) (settings : OpenSettings) :
    Opening :=
  match zeroByte? text with
  | some position => openAddress.unreachable files (.zeroByte position)
  | none =>
    match Address.ofText text with
    | .error fault => openAddress.unreachable files fault
    | .ok address => openAddress files directory text address settings

/-- The files after a connection to the database at a place is closed. What the connection has not
kept is undone. -/
def Files.close (files : Files) (place : Option Location) (c : Connection) : Files :=
  match place with
  | some place => files.put place (.database c.undone.database.kept)
  | none => files

end SectorForest
