import SectorForest.Store.Error

/-!
# Errors of the service

A `ServiceError` is what a caller of the service gets in place of an answer. Its `code` and `status`
are for machines, its `message` is for people. Errors of the stores are passed on unchanged.

A `Failure` is a service error or the one case in which the service cannot go on: a new sector that
would lie deeper than can be told.
-/

namespace SectorForest

/-- What an error is about. -/
inductive Entity where
  | organization
  | sector
  | parentSector
  | rootSector
  deriving DecidableEq, Repr, Inhabited

/-- The name of an entity in messages. -/
def Entity.name : Entity → String
  | .organization => "organization"
  | .sector => "sector"
  | .parentSector => "parent sector"
  | .rootSector => "root sector"

/-- The texts that a caller chooses. -/
inductive TextField where
  | code
  | label
  deriving DecidableEq, Repr, Inhabited

/-- The name of a field in messages. -/
def TextField.name : TextField → String
  | .code => "code"
  | .label => "label"

/-- Why no code or label may be a given text. -/
inductive TextFlaw where
  | blank
  | tooLong
  deriving DecidableEq, Repr, Inhabited

/-- The greatest number of characters in a code or label. -/
def maxTextLength : Nat := 50

/-- The wording of a flaw. -/
def TextFlaw.message : TextFlaw → String
  | .blank => "must not be blank"
  | .tooLong => "must be at most " ++ toString maxTextLength ++ " characters"

/-- Why the service does not do what it is asked for. -/
inductive ServiceError where
  /-- There is no such record. -/
  | notFound (entity : Entity) (key : String)
  /-- Another record has the code or label already. -/
  | conflict (entity : Entity) (field : TextField) (value : String)
  /-- No sector of depth zero is there to grow a tree from. -/
  | rootNotFound
  /-- A code or label that nothing may have. -/
  | invalidInput (field : TextField) (flaw : TextFlaw)
  /-- Any other failure of a store. -/
  | persistence (cause : StoreError)
  deriving DecidableEq, Repr, Inhabited

namespace ServiceError

/-- The error of a service whose database reports a fault. -/
def ofFault (fault : Storage.Fault) : ServiceError :=
  .persistence (.ofFault fault)

/-- The stable name of the kind of error. -/
def code : ServiceError → String
  | .notFound .organization _ => "org_not_found"
  | .notFound _ _ => "sector_not_found"
  | .conflict .organization _ _ => "org_already_exists"
  | .conflict _ _ _ => "sector_already_exists"
  | .rootNotFound => "sector_root_not_found"
  | .invalidInput _ _ => "invalid_input"
  | .persistence _ => "persistence_failure"

/-- The status that a web interface answers with. -/
def status : ServiceError → Nat
  | .notFound _ _ => 404
  | .conflict _ _ _ => 409
  | .invalidInput _ _ => 400
  | .rootNotFound | .persistence _ => 500

/-- The wording of an error; a fault is worded by `wording`. -/
def wordedBy (wording : Storage.Fault → String) : ServiceError → String
  | .notFound entity key => entity.name ++ " not found: " ++ key
  | .conflict entity field value =>
    entity.name ++ " already exists with " ++ field.name ++ " `" ++ value ++ "`"
  | .rootNotFound => "sector set has no root (depth 0) sector"
  | .invalidInput field flaw => "invalid " ++ field.name ++ ": " ++ flaw.message
  | .persistence cause => cause.wordedBy wording

/-- The wording of an error. -/
def message : ServiceError → String :=
  wordedBy Storage.Fault.message

/-- The wording of an error as it is reported at large. -/
def report : ServiceError → String :=
  wordedBy Storage.Fault.report

end ServiceError

/-- Why an operation ends without an answer. -/
inductive Failure where
  | refused (error : ServiceError)
  /-- A sector would lie below the deepest level that can be told. -/
  | tooDeep
  deriving DecidableEq, Repr, Inhabited

end SectorForest
