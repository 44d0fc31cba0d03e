import SectorForest.Storage.Table

/-!
# Databases

A database is a list of tables, a list of indexes that are known by name only, and a version number
that its users write. Tables stand in two parts, of which one is kept and the other is gone with the
connection; a name without a part denotes the temporary table before the kept one.

`Database.referencesHold` tells whether the references between a table and the others of its part
name rows that are there: a change after which one of them does not is refused as a whole.

Views and triggers are left out, so what is said of every database is said of those that have none.
With views it would not hold: a table that is to be made if there is none is not made where a view
has its name.
-/

namespace SectorForest.Storage

open Text

/-- A named index over columns of a table. It speeds up reading and is not seen in results. -/
structure Index where
  name : String
  part : Part := .main
  table : String
  columns : List String
  deriving DecidableEq, Repr, Inhabited

/-- How a statement names a table: by its name alone, or with the part that holds it. -/
structure TableName where
  part : Option Part := none
  name : String
  deriving DecidableEq, Repr, Inhabited

instance : Coe String TableName :=
  ⟨fun name => { name }⟩

/-- The contents of a store that has tables and indexes, and neither views nor triggers. -/
structure Database where
  tables : List Table := []
  indexes : List Index := []
  version : Int := 0
  /-- Whether the store remembers the greatest numbers of keyed tables, as it does from the first
  such table on. -/
  remembersNumbers : Bool := false
  deriving Repr, Inhabited

/-- The version number that a database keeps for a given one: a number of 32 bits as it is, and zero
for any other. -/
def keptVersion (version : Int) : Int :=
  if -2147483648 ≤ version ∧ version ≤ 2147483647 then version else 0

namespace Database

/-- The table of the given name in a part. -/
def tableIn? (db : Database) (part : Part) (name : String) : Option Table :=
  db.tables.find? fun t => t.definition.part == part && sameName t.definition.name name

/-- The table that a name without a part denotes. -/
def table? (db : Database) (name : String) : Option Table :=
  (db.tableIn? .temporary name).or (db.tableIn? .main name)

/-- The table that a name denotes. -/
def find? (db : Database) (t : TableName) : Option Table :=
  match t.part with
  | some part => db.tableIn? part t.name
  | none => db.table? t.name

/-- Whether only the store may give a name to a table. -/
def isReservedName (name : String) : Bool :=
  sameName (name.take 7).toString "sqlite_"

/-- Whether two definitions are of the same table. -/
def sameTable (a b : Definition) : Bool :=
  a.part == b.part && sameName a.name b.name

/-- The database with a table in place of the one of the same name. -/
def setTable (db : Database) (t : Table) : Database :=
  { db with
    tables := db.tables.map fun old => if sameTable old.definition t.definition then t else old }

/-- The database without a table and its indexes. -/
def without (db : Database) (d : Definition) : Database :=
  { db with
    tables := db.tables.filter fun t => !sameTable t.definition d
    indexes := db.indexes.filter fun i => !(i.part == d.part && sameName i.table d.name) }

/-- What is kept of a database when the connection to it is closed. -/
def kept (db : Database) : Database :=
  { db with
    tables := db.tables.filter (·.definition.part == .main)
    indexes := db.indexes.filter (·.part == .main) }

/-- Whether some row of a table has the given cell in a column. -/
def hasCell (t : Table) (column : String) (cell : Cell) : Bool :=
  t.rows.any fun row => (t.cell row column).agree cell

/-- Whether every cell of a referring column is null or, as the column that it refers to would store
it, names a row there. A
reference to a missing table, or to a column that identifies nothing, is not looked at here. -/
def referenceHolds (db : Database) (t : Table) (r : Reference) : Bool :=
  match db.tableIn? t.definition.part r.table with
  | none => true
  | some parent =>
    !parent.definition.identifies r.key ||
      t.rows.all fun row =>
        t.cell row r.column == .null ||
          hasCell parent r.key ((parent.definition.affinity r.key).store (t.cell row r.column))

/-- Whether every reference from or to a table holds. -/
def referencesHold (db : Database) (d : Definition) : Bool :=
  db.tables.all fun t =>
    t.definition.part != d.part ||
      t.definition.references.all fun r =>
        !(sameName t.definition.name d.name || sameName r.table d.name) || db.referenceHolds t r

/-- The references from tables of a part to a table of it, each with its table. -/
def referencesTo (db : Database) (d : Definition) : List (Definition × Reference) :=
  (db.tables.map (·.definition)).flatMap fun child =>
    if child.part == d.part then
      (child.references.filter fun r => sameName r.table d.name).map (child, ·)
    else []

/-- What is wrong with the definitions that a change of the columns picked by `concerns` brings into
play. A table that refers needs the table it refers to, and a key there; a table that is referred to
needs the key as well. With any reference, those of the table to itself and all those to the table
are in play. The reference declared last is looked at first. -/
def keyFault? (db : Database) (t : Table) (concerns : String → Bool) (asParent : Bool) :
    Option Fault :=
  let d := t.definition
  let inward := if asParent then db.referencesTo d else []
  let touched := inward.filter (concerns ·.2.key)
  let isInPlay := d.references.any (concerns ·.column) || !touched.isEmpty
  let ownFault? (r : Reference) : Option Fault :=
    if concerns r.column || isInPlay && sameName r.table d.name then
      match db.tableIn? d.part r.table with
      | none => some (.noTable ("main." ++ r.table))
      | some parent =>
        if parent.definition.identifies r.key then none
        else some (.keyMismatch d.name r.table)
    else none
  let otherFault? (r : Definition × Reference) : Option Fault :=
    if d.identifies r.2.key then none else some (.keyMismatch r.1.name r.2.table)
  (d.references.reverse.findSome? ownFault?).or
    ((touched.reverse.findSome? otherFault?).or
      (if isInPlay then inward.findSome? otherFault? else none))

end Database

end SectorForest.Storage
