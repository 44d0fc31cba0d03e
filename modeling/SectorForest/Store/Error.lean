import SectorForest.Storage.Fault

/-!
# Errors of databases and stores

A `DatabaseError` says why a database cannot be opened or brought to the current schema, a
`StoreError` why a request for records is not answered. A store keeps the fault of its database as
it is; `StoreError.uniqueDetail?` tells the one kind of fault that callers look into.
-/

namespace SectorForest

open Storage

/-- Why a database cannot be used. -/
inductive DatabaseError where
  | storage (cause : Fault)
  /-- The database was written by a later version of the schema. -/
  | unsupportedVersion (found supported : Nat)
  deriving DecidableEq, Repr, Inhabited

/-- The wording of a database error; a fault is worded by `wording`. -/
def DatabaseError.wordedBy (wording : Fault → String) : DatabaseError → String
  | .storage cause => wording cause
  | .unsupportedVersion found supported =>
    "database schema version " ++ toString found ++ " is newer than supported " ++
      toString supported

/-- The wording of a database error. -/
def DatabaseError.message : DatabaseError → String :=
  DatabaseError.wordedBy Fault.message

/-- The wording of a database error as it is reported at large. -/
def DatabaseError.report : DatabaseError → String :=
  DatabaseError.wordedBy Fault.report

/-- Why a store cannot answer. -/
inductive StoreError where
  | database (error : DatabaseError)
  /-- The database does not have the version of the schema that the store is for. -/
  | wrongVersion (expected found : Nat)
  | missingTable (table : String)
  | missingColumn (table column : String)
  /-- A stored row is no record. -/
  | invalidData (reason : String)
  deriving DecidableEq, Repr, Inhabited

namespace StoreError

/-- The error of a store whose database reports a fault. -/
def ofFault (fault : Fault) : StoreError :=
  .database (.storage fault)

/-- The wording of a store error; a fault is worded by `wording`. -/
def wordedBy (wording : Fault → String) : StoreError → String
  | .database error => error.wordedBy wording
  | .wrongVersion expected found =>
    "store requires schema version " ++ toString expected ++ ", got " ++ toString found
  | .missingTable table => "store requires table `" ++ table ++ "`"
  | .missingColumn table column =>
    "store requires column `" ++ column ++ "` in table `" ++ table ++ "`"
  | .invalidData reason => "invalid persisted data: " ++ reason

/-- The wording of a store error. -/
def message : StoreError → String :=
  wordedBy Fault.message

/-- The wording of a store error as it is reported at large. -/
def report : StoreError → String :=
  wordedBy Fault.report

/-- The detail of a violation of uniqueness, if the error is one. -/
def uniqueDetail? : StoreError → Option String
  | .database (.storage fault) => fault.uniqueDetail?
  | _ => none

end StoreError

end SectorForest
