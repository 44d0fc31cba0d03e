import SectorForest.Storage.NewTable
import SectorForest.Storage.OwnTable

/-!
# Statements as text

A statement may be given as text, with names that are put into it as they are. What is written then
decides what the statement says: a name may bring a type, a comment or further statements with it.
`changeColumn` reads one statement that changes a column, `dropTable` and `createTable` read and run
statements that remove and create tables up to the end of the text.
-/

namespace SectorForest.Storage

open Text

/-- The name of a table as a statement writes it. -/
structure WrittenName where
  database : Option Name := none
  name : Name
  deriving Repr, Inhabited

namespace WrittenName

/-- The name with that of the database in front, if it is given. -/
def full (t : WrittenName) : String :=
  match t.database with
  | some database => database.value ++ "." ++ t.name.value
  | none => t.name.value

/-- The name for a database that has its parts for databases; another one has no tables. -/
def tableName? (t : WrittenName) : Option TableName :=
  match t.database with
  | none => some { name := t.name.value }
  | some database =>
    if sameName database.value "main" then some { part := some .main, name := t.name.value }
    else if sameName database.value "temp" then
      some { part := some .temporary, name := t.name.value }
    else none

end WrittenName

/-- What a name in a statement denotes. -/
inductive Target where
  | table (name : TableName)
  | own (table : OwnTable)
  | missing
  deriving Repr, Inhabited

/-- What a name in a statement denotes; to ask for it may leave a trace. -/
def Connection.target (c : Connection) (t : WrittenName) : Target × Connection :=
  match t.tableName?.filter fun name => (c.database.find? name).isSome with
  | some name => (.table name, c)
  | none =>
    let c := c.asking t.name.value
    match (t.tableName?.bind c.keptTable?).or (c.answeredTable? t.name.value) with
    | some own => (.own own, c)
    | none => (.missing, c)

namespace Reader

/-- The name of a table: one name, or two with a point between. -/
def tableName : Reader WrittenName := do
  let first ← name
  if ← accept (isMark ".") then return { database := some first, name := ← name }
  else return { name := first }

/-- The words `IF EXISTS`, which may be left out. -/
def ifPresent : Reader Bool := do
  if ← accept (isWord "if") then
    expect (isWord "exists")
    return true
  else return false

/-- The words `IF NOT EXISTS`, which may be left out. -/
def ifMissing : Reader Bool := do
  if ← accept (isWord "if") then
    expect (isWord "not")
    expect (isWord "exists")
    return true
  else return false

/-! ## Changes -/

/-- A statement that changes a column of the row with a number. -/
structure Change where
  table : WrittenName
  column : String
  /-- How the condition names the number. -/
  key : Name
  deriving Repr, Inhabited

/-- What may stand behind the name of a table that is changed: another name for it, and that no
index is to be used. -/
def manner : Reader Unit := do
  if ← accept (isWord "as") then let _ ← name
  if ← accept (isWord "not") then expect (isWord "indexed")

/-- The column that is changed; it may stand in brackets. -/
def changedColumn : Reader Name := do
  if ← accept (isMark "(") then
    let column ← name
    expect (isMark ")")
    return column
  else name

/-- A statement that changes a column to the first parameter where a number is the second. -/
def change : Reader Change := do
  expect (isWord "update")
  let table ← tableName
  manner
  expect (isWord "set")
  let column ← changedColumn
  expect (isMark "=")
  expect (isMark "?1")
  expect (isWord "where")
  let key ← name
  expect (isMark "=")
  expect (isMark "?2")
  let _ ← ending
  return { table, column := column.value, key }

/-! ## Orders -/

/-- What a statement about whole tables asks for. -/
inductive Order where
  | drop (table : WrittenName) (ifPresent : Bool)
  | create (definition : Definition)
  /-- What is asked for is done already, or nothing is asked for. -/
  | nothing
  deriving Repr, Inhabited

/-- A statement that removes a table. -/
def drop : Reader Order := do
  expect (isWord "table")
  let ifPresent ← ifPresent
  return .drop (← tableName) ifPresent

/-- The part of the database in which a new table is to stand. -/
def newTablePart (t : WrittenName) : Reader Part :=
  match t.tableName?, t.database with
  | none, some database => object (.noDatabase database.text) (some database.start)
  | some { part := some part, .. }, _ => pure part
  | _, _ => pure .main

/-- A statement that creates a table. Its name is looked at before its columns. -/
def create (db : Database) : Reader Order := do
  expect (isWord "table")
  let ifMissing ← ifMissing
  let t ← tableName
  let isCopy ← accept (isWord "as")
  if !isCopy then expect (isMark "(")
  let part ← newTablePart t
  let table := t.name.value
  let isThere := (db.tableIn? part table).isSome
  match db.nameFault? part table with
  | some (.tableExists _) =>
    if !ifMissing then object (.tableExists t.name.text) (some t.name.start)
  | some fault => object fault
  | none => pure ()
  if isCopy then refuse
  match ← newTable (if isThere then none else some { name := table, part }) with
  | some t => return .create t.definition
  | none => return .nothing

/-- A statement about whole tables, and the text behind it. -/
def order (db : Database) : Reader (Order × List Char) := do
  modify (·.dropWhile fun l => isMark ";" l.token)
  if (← get).isEmpty then return (.nothing, [])
  let order ← if ← accept (isWord "drop") then drop
    else do
      expect (isWord "create")
      create db
  return (order, ← ending)

end Reader

/-! ## Running statements -/

namespace Connection

/-- Why a change names its columns wrongly. -/
def changedColumnFault? (d : Definition) (change : Reader.Change) (text : List Char) :
    Option Fault :=
  if !d.hasColumn change.column then some (.noColumn change.column)
  else if !d.hasColumn change.key.value then
    some (Objection.toFault
      { fault := .noColumn change.key.value, start := some change.key.start } text)
  else none

/-- Change a column in the row with a number; the names are given as text. -/
def changeColumn (table column : String) (value : Cell) (id : Int64) (enforceChecks : Bool) :
    ClientAction Outcome := fun c =>
  let text := ("UPDATE " ++ table ++ " SET " ++ column ++ " = ?1 WHERE id = ?2").toList
  match Reader.change.run text with
  | .error fault => (.error fault, c)
  | .ok change =>
    let (target, c) := c.target change.table
    match target with
    | .missing => (.error (.noTable change.table.full), c)
    | .own (.closed name) => (.error (.notModifiable name), c)
    | .own (.wanting name) => (.error (.badArguments name), c)
    | .own .numbers =>
      -- no row of it goes by a number
      let fault := changedColumnFault? OwnTable.numberTable change text
      (.error (fault.getD (.noColumn change.key.value)), c)
    | .table name =>
      match (c.database.find? name).bind fun t => changedColumnFault? t.definition change text with
      | some fault => (.error fault, c)
      | none =>
        execute (.update name change.column value (.equals change.key.value (.int id))
          enforceChecks) c

/-- Do what a statement about whole tables asks for. -/
def obey : Reader.Order → ClientAction Outcome
  | .nothing => fun c => (.ok {}, c)
  | .create definition => execute (.createTable definition false)
  | .drop t ifPresent => fun c =>
    let (target, c) := c.target t
    match target, ifPresent with
    | .table name, _ => execute (.dropTable name) c
    | .own (.closed name), _ => (.error (.notDroppable name), c)
    | .own .numbers, _ => (.error (.notDroppable OwnTable.numberTable.name), c)
    | .own (.wanting name), false => (.error (.badArguments name), c)
    | .missing, false => (.error (.noTable t.full), c)
    | .own (.wanting _), true | .missing, true => (.ok {}, c)

/-- Run the statements of a text up to the first that fails, at most `fuel` of them. -/
def obeyAll : (fuel : Nat) → (text : List Char) → ClientAction Unit
  | 0, _, c | _, [], c => (.ok (), c)
  | fuel + 1, text, c =>
    match (Reader.order c.database).run text with
    | .error fault => (.error fault, c)
    | .ok (order, rest) =>
      match obey order c with
      | (.error fault, c) => (.error fault, c)
      | (.ok _, c) =>
        obeyAll fuel (text.drop ((countedText text).length - rest.length)) c

/-- Run the statements of a text up to the first that fails. -/
def obeyText (text : String) : ClientAction Unit :=
  obeyAll text.length text.toList

/-- Remove a table; its name is given as text. -/
def dropTable (table : String) : ClientAction Unit :=
  obeyText ("DROP TABLE " ++ table ++ ";")

/-- Create a table; its name, its columns and its rules are given as text. -/
def createTable (table : String) (columns : List String) : ClientAction Unit :=
  obeyText ("CREATE TABLE " ++ table ++ " (" ++ String.intercalate ", " columns ++ ");")

end Connection

end SectorForest.Storage
