import SectorForest.Storage.Database

/-!
# Statements

A `Statement` changes a database. It is first prepared, which finds what is wrong with it whatever
the rows are, and then run. A statement that fails changes nothing; `Statement.isIdle` tells those
that have nothing to do.
-/

namespace SectorForest.Storage

open Text

/-- A change of a database. -/
inductive Statement where
  | insert (table : TableName) (values : List (String × Cell))
  | update (table : TableName) (column : String) (value : Cell) (condition : Condition)
      (enforceChecks : Bool)
  | delete (table : TableName) (condition : Condition)
  | createTable (definition : Definition) (ifMissing : Bool)
  /-- Create an index unless there is one of its name; the text and the places of the columns in it
  are for messages. -/
  | createIndex (index : Index) (text : String) (offsets : List Nat)
  | dropTable (table : TableName)
  | setVersion (version : Int)
  deriving Repr, Inhabited

/-- What a statement did. -/
structure Outcome where
  /-- The number of rows inserted, changed or deleted. -/
  count : Nat := 0
  /-- The number of the row inserted. -/
  id : Int64 := 0
  deriving DecidableEq, Repr, Inhabited

/-- The first name in a list that one of `before`, or one in front of it, has already. -/
def repeatedName? (before : List String) : List String → Option String
  | [] => none
  | name :: rest =>
    if before.any (sameName name) then some name else repeatedName? (name :: before) rest

namespace Database

/-- Whether a part has an index of the given name. -/
def hasIndex (db : Database) (part : Part) (name : String) : Bool :=
  db.indexes.any fun i => i.part == part && sameName i.name name

/-- The names in a list of columns that a table lacks. -/
def unknownColumn? (t : Table) (columns : List String) : Option Fault :=
  (columns.find? fun c => !t.definition.hasColumn c).map .noColumn

/-- Why a new table in a part may not have a name. -/
def nameFault? (db : Database) (part : Part) (name : String) : Option Fault :=
  if isReservedName name then some (.reservedName name)
  else if (db.tableIn? part name).isSome then some (.tableExists name)
  else if db.hasIndex part name then some (.nameTaken "an index" name)
  else none

/-- The part in which a new index stands: that of its table. -/
def indexPart (db : Database) (index : Index) : Part :=
  ((db.table? index.table).map (·.definition.part)).getD index.part

end Database

namespace Statement

/-- What is wrong with a statement before any row is looked at. -/
def prepare (db : Database) : Statement → Except Fault Unit
  | .insert name values =>
    match db.find? name with
    | none => .error (.noTable name.name)
    | some t =>
      match (values.map (·.1)).find? fun c => !t.definition.hasColumn c with
      | some column => .error (.noColumnInTable t.definition.name column)
      | none =>
        match db.keyFault? t (fun _ => true) false with
        | some fault => .error fault
        | none => .ok ()
  | .update name column _ condition _ =>
    match db.find? name with
    | none => .error (.noTable name.name)
    | some t =>
      match Database.unknownColumn? t (column :: condition.columns) with
      | some fault => .error fault
      | none =>
        match db.keyFault? t (t.definition.sameColumn column) true with
        | some fault => .error fault
        | none => .ok ()
  | .delete name condition =>
    match db.find? name with
    | none => .error (.noTable name.name)
    | some t =>
      match Database.unknownColumn? t condition.columns with
      | some fault => .error fault
      | none =>
        match db.keyFault? t (fun _ => true) true with
        | some fault => .error fault
        | none => .ok ()
  | .createTable definition ifMissing =>
    if ifMissing && (db.tableIn? definition.part definition.name).isSome then .ok ()
    else
      match db.nameFault? definition.part definition.name with
      | some fault => .error fault
      | none =>
        match repeatedName? [] definition.columnNames with
        | some name => .error (.duplicateColumn name)
        | none => if definition.columnNames.isEmpty then .error (.misplaced ")") else .ok ()
  | .createIndex index text offsets =>
    match db.table? index.table with
    | none => .error (.noTable ("main." ++ index.table))
    | some t =>
      let part := t.definition.part
      if (db.tableIn? part index.name).isSome then .error (.nameTaken "a table" index.name)
      else if db.hasIndex part index.name then .ok ()
      else
        match (index.columns.zip offsets).find? fun c => !t.definition.hasColumn c.1 with
        | some (column, offset) => .error (.located (.noColumn column) text offset)
        | none => .ok ()
  | .dropTable name => if (db.find? name).isSome then .ok () else .error (.noTable name.name)
  | .setVersion _ => .ok ()

/-- Whether the statement finds its work done already. -/
def isIdle (db : Database) : Statement → Bool
  | .createTable definition _ => (db.tableIn? definition.part definition.name).isSome
  | .createIndex index _ _ => db.hasIndex (db.indexPart index) index.name
  | _ => false

/-- The part of the database that the statement changes. -/
def part (db : Database) : Statement → Part
  | .insert name _ | .update name _ _ _ _ | .delete name _ | .dropTable name =>
    ((db.find? name).map (·.definition.part)).getD .main
  | .createTable definition _ => definition.part
  | .createIndex index _ _ => db.indexPart index
  | .setVersion _ => .main

/-- Keep a changed table if every reference from or to it holds afterwards. -/
def keepIfReferencesHold (db : Database) (t : Table) (outcome : Outcome) :
    Except Fault (Outcome × Database) :=
  let changed := db.setTable t
  if changed.referencesHold t.definition then .ok (outcome, changed) else .error .foreignKey

/-- The database after a prepared statement, and what the statement did. -/
def run (db : Database) : Statement → Except Fault (Outcome × Database)
  | .insert name values =>
    match db.find? name with
    | none => .error (.noTable name.name)
    | some t =>
      match t.insertRow values with
      | .error fault => .error fault
      | .ok (id, t) => keepIfReferencesHold db t { count := 1, id }
  | .update name column value condition enforceChecks =>
    match db.find? name with
    | none => .error (.noTable name.name)
    | some t =>
      match t.update enforceChecks column value condition with
      | .error fault => .error fault
      | .ok (count, t) => keepIfReferencesHold db t { count }
  | .delete name condition =>
    match db.find? name with
    | none => .error (.noTable name.name)
    | some t =>
      let (count, t) := t.delete condition
      keepIfReferencesHold db t { count }
  | .createTable definition _ =>
    .ok ({}, { db with
      tables := db.tables ++ [{ definition }]
      remembersNumbers :=
        db.remembersNumbers || (definition.part == .main && definition.remembersNumbers) })
  | .createIndex index _ _ =>
    .ok ({}, { db with indexes := db.indexes ++ [{ index with part := db.indexPart index }] })
  | .dropTable name =>
    match db.find? name with
    | none => .error (.noTable name.name)
    | some t =>
      -- the rows go first, and no reference may be left without its row
      if (db.setTable { t with rows := [] }).referencesHold t.definition then
        .ok ({}, db.without t.definition)
      else .error .foreignKey
  | .setVersion version => .ok ({}, { db with version := keptVersion version })

end Statement

end SectorForest.Storage
