import SectorForest.Storage.Statement

/-!
# Connections

A `Connection` is one client's view of a database: the contents, the contents to return to while a
transaction is open, and the settings of the client. Every statement outside a transaction is kept
at once. A statement that fails undoes itself alone, except that running out of row numbers ends an
open transaction and undoes all of it. What is temporary can be changed whoever holds the right to
write.
-/

namespace SectorForest.Storage

/-- One client's view of a database. -/
structure Connection where
  database : Database := {}
  /-- The contents before the open transaction, if one is open. -/
  saved : Option Database := none
  /-- Whether another client holds the right to write. -/
  contended : Bool := false
  /-- Why the client cannot write, if it cannot. -/
  obstacle : Option Fault := none
  /-- How long the client waits for the right to write, in milliseconds. -/
  busyTimeout : Nat := 5000
  /-- Whether references between tables are kept. They always are. -/
  foreignKeys : Bool := true
  /-- The names under which tables of settings were first asked for. -/
  asked : List String := []
  deriving Repr, Inhabited

/-- What a client does through a connection: it may fail, and then leaves what it did before. -/
abbrev ClientAction (α : Type) := Connection → Except Fault α × Connection

namespace Connection

/-- Whether a transaction is open. -/
def inTransaction (c : Connection) : Bool :=
  c.saved.isSome

/-- Open a transaction and take the right to write. -/
def beginImmediate : ClientAction Unit := fun c =>
  if c.inTransaction then (.error .transactionOpen, c)
  else if c.contended then (.error .locked, c)
  else (.ok (), { c with saved := some c.database })

/-- Open a transaction and leave the right to write to the first change. -/
def beginDeferred : ClientAction Unit := fun c =>
  if c.inTransaction then (.error .transactionOpen, c)
  else (.ok (), { c with saved := some c.database })

/-- Keep what the open transaction did and close it. -/
def commit : ClientAction Unit := fun c =>
  if c.inTransaction then (.ok (), { c with saved := none })
  else (.error (.noTransaction "commit"), c)

/-- The connection with the open transaction undone and closed. -/
def undone (c : Connection) : Connection :=
  { c with database := c.saved.getD c.database, saved := none }

/-- Undo what the open transaction did and close it. -/
def rollback : ClientAction Unit := fun c =>
  if c.inTransaction then (.ok (), c.undone)
  else (.error (.noTransaction "rollback"), c)

/-- Why a part of the database cannot be changed at present. -/
def writeFault? (c : Connection) : Part → Option Fault
  | .main => c.obstacle.or (if c.contended then some .locked else none)
  | .temporary => none

/-- Prepare and run one statement. -/
def execute (statement : Statement) : ClientAction Outcome := fun c =>
  match statement.prepare c.database with
  | .error fault => (.error fault, c)
  | .ok () =>
    if statement.isIdle c.database then (.ok {}, c)
    else
      match c.writeFault? (statement.part c.database) with
      | some fault => (.error fault, c)
      | none =>
        match statement.run c.database with
        | .ok (outcome, database) => (.ok outcome, { c with database })
        | .error .full => (.error .full, c.undone)
        | .error fault => (.error fault, c)

/-- Run statements in order up to the first that fails. -/
def executeAll : List Statement → ClientAction Unit
  | [], c => (.ok (), c)
  | statement :: rest, c =>
    match execute statement c with
    | (.ok _, c) => executeAll rest c
    | (.error fault, c) => (.error fault, c)

/-- The cells in the given columns of the rows that meet a condition, in the order of a column where
one is given and in the order of the rows' numbers otherwise. -/
def select (c : Connection) (table : String) (columns : List String) (condition : Condition)
    (orderBy : Option String := none) : Except Fault (List (List Cell)) :=
  match c.database.table? table with
  | none => .error (.noTable table)
  | some t =>
    match Database.unknownColumn? t (columns ++ condition.columns ++ orderBy.toList) with
    | some fault => .error fault
    | none =>
      let rows := match orderBy with
        | some column => t.rowsBy column
        | none => t.rows
      .ok ((rows.filter (t.meets condition)).map fun row => columns.map (t.cell row))

/-- Whether a row meets a condition. -/
def hasRow (c : Connection) (table : String) (condition : Condition) : Except Fault Bool :=
  (c.select table [] condition).map fun rows => !rows.isEmpty

end Connection

end SectorForest.Storage
