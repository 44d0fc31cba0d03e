/-!
# Faults of the storage

`Fault` lists why the store refuses to open, to run a statement or to hand out a cell as a value of
a type. The wording of a fault is `Fault.message`; `Fault.report` adds, where a fault belongs to a
place in a statement, the statement and that place.
-/

namespace SectorForest.Storage

/-- The kinds of stored cells. -/
inductive CellKind where
  | null
  | integer
  | real
  | text
  deriving DecidableEq, Repr, Inhabited

/-- The name of a kind in messages. -/
def CellKind.name : CellKind → String
  | .null => "Null"
  | .integer => "Integer"
  | .real => "Real"
  | .text => "Text"

/-- Why the store refuses. -/
inductive Fault where
  /-- Another connection holds the right to write. -/
  | locked
  /-- No number is left for a new row. -/
  | full
  /-- Two rows would share what only one may have. -/
  | notUnique (detail : String)
  /-- Two rows would have one number, which is no column of their table. -/
  | numberTaken (detail : String)
  | notNull (table column : String)
  | check (text : String)
  | foreignKey
  /-- The column that a foreign key names identifies no row of its table. -/
  | keyMismatch (child parent : String)
  | noTable (name : String)
  | noColumn (name : String)
  | noColumnInTable (table column : String)
  | tableExists (name : String)
  | noDatabase (name : String)
  | nameTaken (kind name : String)
  | duplicateColumn (name : String)
  | tooManyColumns (table : String)
  | secondKey (table : String)
  /-- Numbers are remembered for a column that cannot number the rows. -/
  | notNumbering
  | noReferringColumn (name : String)
  /-- A name that only the store gives. -/
  | reservedName (name : String)
  /-- A table that the store alone changes. -/
  | notModifiable (table : String)
  | notDroppable (table : String)
  /-- A token that may not stand where it stands in a statement. -/
  | misplaced (token : String)
  /-- A piece of a statement that is no token. -/
  | unrecognized (token : String)
  /-- A statement that ends too early. -/
  | incomplete
  /-- A number of a row that is no whole number. -/
  | badRowNumber
  | transactionOpen
  | noTransaction (action : String)
  /-- A cell of another kind than the one asked for. -/
  | cellKind (found : CellKind) (index : Nat) (column : String)
  /-- A number too small or too large for the type asked for. -/
  | outOfRange (value : Int) (index : Nat)
  | cannotOpen (path : String)
  /-- The file that keeps what a change undoes cannot be made. -/
  | noJournal
  /-- Something about a file cannot be found out: a directory is no file to read from, a file to
  take the permissions of is not there, or a lock cannot be made. -/
  | unreadable
  /-- The address names another host. -/
  | foreignHost (host : String)
  /-- The address sets something to a mode that it does not have. -/
  | noMode (setting mode : String)
  /-- The address asks for more than it may. -/
  | modeNotAllowed (mode : String)
  /-- The address names a way to reach files that there is not. -/
  | noLayer (name : String)
  | notDatabase
  /-- The connection is for reading only. -/
  | readOnly
  | zeroByte (position : Nat)
  /-- A table that answers nothing without being given more. -/
  | badArguments (table : String)
  /-- A fault of a statement at a place in its text, told in bytes. -/
  | located (fault : Fault) (statement : String) (offset : Nat)
  deriving DecidableEq, Repr, Inhabited

namespace Fault

/-- The wording of a fault. -/
def message : Fault → String
  | .locked => "database is locked"
  | .full => "database or disk is full"
  | .notUnique detail => detail
  | .numberTaken detail => detail
  | .notNull table column => "NOT NULL constraint failed: " ++ table ++ "." ++ column
  | .check text => "CHECK constraint failed: " ++ text
  | .foreignKey => "FOREIGN KEY constraint failed"
  | .keyMismatch child parent =>
    "foreign key mismatch - \"" ++ child ++ "\" referencing \"" ++ parent ++ "\""
  | .noTable name => "no such table: " ++ name
  | .noColumn name => "no such column: " ++ name
  | .noColumnInTable table column => "table " ++ table ++ " has no column named " ++ column
  | .tableExists name => "table " ++ name ++ " already exists"
  | .noDatabase name => "unknown database " ++ name
  | .nameTaken kind name => "there is already " ++ kind ++ " named " ++ name
  | .duplicateColumn name => "duplicate column name: " ++ name
  | .tooManyColumns table => "too many columns on " ++ table
  | .secondKey table => "table \"" ++ table ++ "\" has more than one primary key"
  | .notNumbering => "AUTOINCREMENT is only allowed on an INTEGER PRIMARY KEY"
  | .noReferringColumn name => "unknown column \"" ++ name ++ "\" in foreign key definition"
  | .reservedName name => "object name reserved for internal use: " ++ name
  | .notModifiable table => "table " ++ table ++ " may not be modified"
  | .notDroppable table => "table " ++ table ++ " may not be dropped"
  | .misplaced token => "near \"" ++ token ++ "\": syntax error"
  | .unrecognized token => "unrecognized token: \"" ++ token ++ "\""
  | .incomplete => "incomplete input"
  | .badRowNumber => "datatype mismatch"
  | .transactionOpen => "cannot start a transaction within a transaction"
  | .noTransaction action => "cannot " ++ action ++ " - no transaction is active"
  | .cellKind found index column =>
    "Invalid column type " ++ found.name ++ " at index: " ++ toString index ++ ", name: " ++ column
  | .outOfRange value index =>
    "Integer " ++ toString value ++ " out of range at index " ++ toString index
  | .cannotOpen path => "unable to open database file: " ++ path
  | .noJournal => "unable to open database file"
  | .unreadable => "disk I/O error"
  | .foreignHost host => "invalid uri authority: " ++ host
  | .noMode setting mode => "no such " ++ setting ++ " mode: " ++ mode
  | .modeNotAllowed mode => "access mode not allowed: " ++ mode
  | .noLayer name => "no such vfs: " ++ name
  | .notDatabase => "file is not a database"
  | .readOnly => "attempt to write a readonly database"
  | .zeroByte position => "nul byte found in provided data at position: " ++ toString position
  | .badArguments table => "invalid arguments to " ++ table ++ " constructor"
  | .located fault _ _ => fault.message

/-- The wording of a fault as it is reported at large: one at a place in a statement comes with the
statement and the place. -/
def report : Fault → String
  | .located fault statement offset =>
    fault.message ++ " in " ++ statement ++ " at offset " ++ toString offset
  | fault => fault.message

/-- The detail of a uniqueness violation: of a group of columns, or of the column that numbers the
rows. A number that is no column of the table is worded like one, and is none. -/
def uniqueDetail? : Fault → Option String
  | .notUnique detail => some detail
  | _ => none

end Fault

end SectorForest.Storage
