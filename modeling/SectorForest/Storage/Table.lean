import SectorForest.Storage.Condition
import SectorForest.Text.Name

/-!
# Tables

A table has a definition and rows. A *keyed* table has a key column that numbers its rows; numbers
are given out in increasing order. A table that remembers its numbers keeps in `lastId` the greatest
one that was ever given out, so that none is used twice. Rows stand in the order of their numbers. A
table without a key column numbers its rows as well, but the number is not a column of it. In every
table the number of a row also goes by the names of `numberNames` that no column has.

`Table.insertRow`, `Table.update` and `Table.delete` change the rows under the table's own
constraints; references between tables are the business of the database.
-/

namespace SectorForest.Storage

open Text

/-- A column that holds one cell per row. -/
structure Column where
  name : String
  affinity : Affinity := .none
  /-- Whether the column refuses null. -/
  required : Bool := false
  /-- What a new row holds if nothing is given for it. -/
  initial : Cell := .null
  deriving DecidableEq, Repr, Inhabited

/-- A condition that every new or changed row meets, and how a message quotes it. -/
structure Check where
  text : String
  condition : Condition
  deriving Repr, Inhabited

/-- A column whose cells name rows of another table by that table's column `key`. -/
structure Reference where
  column : String
  table : String
  key : String
  deriving DecidableEq, Repr, Inhabited

/-- The parts of a database. -/
inductive Part where
  /-- What is kept. -/
  | main
  /-- What is gone with the connection that made it. -/
  | temporary
  deriving DecidableEq, Repr, Inhabited

/-- What is fixed when a table is created. -/
structure Definition where
  name : String
  /-- The part of the database that holds the table. -/
  part : Part := .main
  /-- The column that numbers the rows. -/
  keyColumn : Option String := none
  /-- The number of columns in front of it. -/
  keyPlace : Nat := 0
  /-- Whether no number is given out twice. -/
  remembersNumbers : Bool := keyColumn.isSome
  /-- The other columns, in order. -/
  columns : List Column
  checks : List Check := []
  /-- The groups of columns in which no two rows agree, in the order of their declaration. -/
  uniques : List (List String) := []
  references : List Reference := []
  deriving Repr, Inhabited

/-- A row: its number, and its cells in the order of the columns beside the key column. -/
structure Row where
  id : Int64
  cells : List Cell
  deriving DecidableEq, Repr, Inhabited

/-- A table with its rows. -/
structure Table where
  definition : Definition
  /-- The rows, in increasing order of their numbers. -/
  rows : List Row := []
  /-- The greatest number given to a row so far; zero before the first. -/
  lastId : Int64 := 0
  deriving Repr, Inhabited

namespace Definition

/-- The names of the columns, in order. -/
def columnNames (d : Definition) : List String :=
  let others := d.columns.map (·.name)
  others.take d.keyPlace ++ d.keyColumn.toList ++ others.drop d.keyPlace

/-- The names by which the number of a row goes where no column has them. -/
def numberNames : List String :=
  ["rowid", "_rowid_", "oid"]

/-- The name under which the number of a row is reported. -/
def numberColumn (d : Definition) : String :=
  d.keyColumn.getD "rowid"

/-- Whether a name denotes the number of a row: it is that of the key column, or one that goes for
the number in every table. -/
def isNumber (d : Definition) (column : String) : Bool :=
  (d.keyColumn.any fun key => sameName key column) ||
    (numberNames.any (sameName column) && !d.columnNames.any (sameName column))

/-- Whether a name denotes a column of the table, or the number of its rows. -/
def hasColumn (d : Definition) (column : String) : Bool :=
  d.columnNames.any (sameName column) || d.isNumber column

/-- Whether two names denote the same column, or both the number of a row. -/
def sameColumn (d : Definition) (a b : String) : Bool :=
  sameName a b || (d.isNumber a && d.isNumber b)

/-- The cell in the column of the given name; null for a name that denotes no column. -/
def cell (d : Definition) (row : Row) (column : String) : Cell :=
  if d.isNumber column then .int row.id
  else
    match (d.columns.zip row.cells).find? (fun p => sameName p.1.name column) with
    | some (_, c) => c
    | none => .null

/-- What the column of the given name makes of the values put into it. -/
def affinity (d : Definition) (column : String) : Affinity :=
  if d.isNumber column then .integer
  else ((d.columns.find? fun c => sameName c.name column).map (·.affinity)).getD .none

/-- Whether a single column tells the rows apart. -/
def identifies (d : Definition) (column : String) : Bool :=
  (d.keyColumn.any fun key => sameName key column) || d.uniques.any fun group =>
    match group with
    | [only] => sameName only column
    | _ => false

/-- The detail of a violation of uniqueness in a group of columns. -/
def uniqueDetail (d : Definition) (group : List String) : String :=
  "UNIQUE constraint failed: " ++ String.intercalate ", " (group.map (d.name ++ "." ++ ·))

/-- Whether two rows agree in a group of columns. Null agrees with nothing. -/
def agree (d : Definition) (group : List String) (a b : Row) : Bool :=
  group.all fun column => d.cell a column != .null && (d.cell a column).agree (d.cell b column)

/-- The first required column of a row that holds null, among those that `concerns` picks. -/
def missingCell? (d : Definition) (concerns : String → Bool) (row : Row) : Option Fault :=
  (d.columns.find? fun c => c.required && concerns c.name && d.cell row c.name == .null).map
    fun c => .notNull d.name c.name

/-- The first check that a row fails, among those that name a column that `concerns` picks. -/
def failedCheck? (d : Definition) (concerns : String → Bool) (row : Row) : Option Fault :=
  (d.checks.find? fun k =>
      k.condition.columns.any concerns && (k.condition.converted d.affinity).fails (d.cell row)).map
    fun k => .check k.text

/-- The first group in which a row agrees with another of `others`, among those that hold a column
that `concerns` picks. The group declared last is looked at first. -/
def sharedGroup? (d : Definition) (concerns : String → Bool) (others : List Row) (row : Row) :
    Option Fault :=
  (d.uniques.reverse.find? fun group =>
      group.any concerns && others.any fun other => d.agree group row other).map
    fun group => .notUnique (d.uniqueDetail group)

/-- Why a row may not stand beside the rows `others` after a change of the columns that `concerns`
picks: a null comes before a failed check, and that before an agreement with another row. -/
def rowFault? (d : Definition) (enforceChecks : Bool) (concerns : String → Bool)
    (others : List Row) (row : Row) : Option Fault :=
  (d.missingCell? concerns row).or
    ((if enforceChecks then d.failedCheck? concerns row else none).or
      (d.sharedGroup? concerns others row))

end Definition

namespace Table

/-- The cell of a row in a column. -/
def cell (t : Table) (row : Row) (column : String) : Cell :=
  t.definition.cell row column

/-- Whether a row meets a condition. -/
def meets (t : Table) (condition : Condition) (row : Row) : Bool :=
  (condition.converted t.definition.affinity).holds (t.cell row)

/-- The number behind which that of a new row comes: the greatest in the table or, if it remembers
its numbers, the greatest that was ever given out. -/
def topId (t : Table) : Int64 :=
  if t.definition.remembersNumbers then
    t.rows.foldl (fun top row => if top.toInt < row.id.toInt then row.id else top) t.lastId
  else (t.rows.getLast?.map (·.id)).getD 0

/-- The number for a new row, one above the top; none is left above the greatest number of all. -/
def nextId? (t : Table) : Option Int64 :=
  if t.topId = Int64.maxValue then none else some (t.topId + 1)

/-- The cells of a new row as their columns store them: the given values, and what the columns hold
without one. -/
def newCells (t : Table) (values : List (String × Cell)) : List Cell :=
  t.definition.columns.map fun column =>
    column.affinity.store
      (((values.find? fun v => sameName v.1 column.name).map (·.2)).getD column.initial)

/-- The number that is given for a new row. -/
def givenNumber? (t : Table) (values : List (String × Cell)) : Option Cell :=
  (values.find? fun v => t.definition.isNumber v.1 && v.2 != .null).map (·.2)

/-- Why a row may not have the number of another one. -/
def numberFault (t : Table) : Fault :=
  let detail := t.definition.uniqueDetail [t.definition.numberColumn]
  if t.definition.keyColumn.isSome then .notUnique detail else .numberTaken detail

/-- A number for a row that the given other rows do not have. -/
def number (t : Table) (others : List Row) (value : Cell) : Except Fault Int64 :=
  match Affinity.integer.store value with
  | .int id => if others.any (·.id == id) then .error t.numberFault else .ok id
  | _ => .error .badRowNumber

/-- The rows in the order of their numbers. -/
def sortRows (rows : List Row) : List Row :=
  rows.mergeSort fun a b => decide (a.id.toInt ≤ b.id.toInt)

/-- The table with one more row, and the number of that row: the one given, or the next. -/
def insertRow (t : Table) (values : List (String × Cell)) : Except Fault (Int64 × Table) :=
  match t.givenNumber? values with
  | none =>
    match t.nextId? with
    | none => .error .full
    | some id =>
      let row : Row := { id, cells := t.newCells values }
      match t.definition.rowFault? true (fun _ => true) t.rows row with
      | some fault => .error fault
      | none => .ok (id, { t with rows := t.rows ++ [row], lastId := id })
  | some value => do
    let id ← t.number t.rows value
    let row : Row := { id, cells := t.newCells values }
    match t.definition.rowFault? true (fun _ => true) t.rows row with
    | some fault => .error fault
    | none =>
      let lastId := if t.lastId.toInt < id.toInt then id else t.lastId
      .ok (id, { t with rows := sortRows (t.rows ++ [row]), lastId })

/-- A row with a new value in a column beside the key column. -/
def setCell (t : Table) (column : String) (value : Cell) (row : Row) : Row :=
  { row with
    cells := (t.definition.columns.zip row.cells).map fun (c, old) =>
      if sameName c.name column then c.affinity.store value else old }

/-- Change a column in one row of the table. The other rows are those before it, changed already,
and those after it. -/
def updateRow (t : Table) (enforceChecks : Bool) (column : String) (value : Cell)
    (others : List Row) (row : Row) : Except Fault Row := do
  let changed ←
    if t.definition.isNumber column then do
      let id ← t.number others value
      pure { row with id }
    else pure (t.setCell column value row)
  match t.definition.rowFault? enforceChecks (t.definition.sameColumn column) others changed with
  | some fault => .error fault
  | none => pure changed

/-- Change a column in those rows of `rest` that meet a condition, row by row; `before` are the rows
in front of them. The count is of the rows that meet the condition. -/
def updateRows (t : Table) (enforceChecks : Bool) (column : String) (value : Cell)
    (condition : Condition) (before : List Row) :
    (rest : List Row) → Except Fault (Nat × List Row)
  | [] => .ok (0, before)
  | row :: rest =>
    if t.meets condition row then do
      let changed ← t.updateRow enforceChecks column value (before ++ rest) row
      let (count, rows) ←
        t.updateRows enforceChecks column value condition (before ++ [changed]) rest
      pure (count + 1, rows)
    else t.updateRows enforceChecks column value condition (before ++ [row]) rest

/-- The table after a change of one column in the rows that meet a condition, and their count. -/
def update (t : Table) (enforceChecks : Bool) (column : String) (value : Cell)
    (condition : Condition) : Except Fault (Nat × Table) := do
  let (count, rows) ← t.updateRows enforceChecks column value condition [] t.rows
  let rows := if t.definition.isNumber column then sortRows rows else rows
  pure (count, { t with rows })

/-- The table without the rows that meet a condition, and their count. -/
def delete (t : Table) (condition : Condition) : Nat × Table :=
  (t.rows.countP (t.meets condition),
    { t with rows := t.rows.filter fun row => !t.meets condition row })

/-- The rows in the order of a column. In the order of the key column they stand already. -/
def rowsBy (t : Table) (column : String) : List Row :=
  if t.definition.isNumber column then t.rows
  else t.rows.mergeSort fun a b => Cell.le (t.cell a column) (t.cell b column)

end Table

end SectorForest.Storage
