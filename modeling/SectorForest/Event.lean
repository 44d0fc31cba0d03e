import SectorForest.Organization
import SectorForest.Service.Error

/-!
# Events

An `Event` is one entry of the log: a level, and a message of `key=value` fields that tell what
happened. There is no clock here, so whatever happens takes no time; where a crash happened is not
known either, and its place in the message holds a star.
-/

namespace SectorForest

/-- How urgent an event is, from the least urgent to the most. -/
inductive LogLevel where
  | trace
  | debug
  | info
  | warn
  | error
  deriving DecidableEq, Repr, Inhabited

namespace LogLevel

/-- The name of a level in settings. -/
def name : LogLevel → String
  | .trace => "trace"
  | .debug => "debug"
  | .info => "info"
  | .warn => "warn"
  | .error => "error"

/-- The name of a level in a line of the log. -/
def tag : LogLevel → String
  | .trace => "TRACE"
  | .debug => "DEBUG"
  | .info => "INFO"
  | .warn => "WARN"
  | .error => "ERROR"

/-- The levels in increasing order of urgency. -/
def urgency : LogLevel → Nat
  | .trace => 0
  | .debug => 1
  | .info => 2
  | .warn => 3
  | .error => 4

/-- Whether a log of level `least` keeps events of a level. -/
def keeps (least level : LogLevel) : Bool :=
  least.urgency ≤ level.urgency

end LogLevel

/-- Where a database lives. -/
inductive Medium where
  | file
  | memory
  deriving DecidableEq, Repr, Inhabited

/-- The name of a medium in messages. -/
def Medium.name : Medium → String
  | .file => "file"
  | .memory => "memory"

/-- At which point opening a database failed. -/
inductive OpenStage where
  /-- The database could not be reached. -/
  | reach
  /-- Its settings or its schema could not be brought in order. -/
  | prepare
  deriving DecidableEq, Repr, Inhabited

/-- The stable name of a failure at a stage. -/
def OpenStage.code : OpenStage → String
  | .reach => "db_open_failed"
  | .prepare => "db_bootstrap_failed"

/-- What happened. -/
inductive Event where
  | openStarted (medium : Medium)
  | opened (medium : Medium)
  | openFailed (medium : Medium) (stage : OpenStage) (error : DatabaseError)
  | committed (operation : String)
  | rollbackFailed (operation : String) (fault : Storage.Fault)
  | rolledBack (operation : String) (cause : ServiceError)
  | succeeded (operation : String)
  | refused (operation : String) (error : ServiceError)
  | loggingStarted (level : LogLevel)
  | crashCaptured (payload : String)
  | dumped (tenant : TenantId) (organizations : Nat)
  | remark (level : LogLevel) (message : String)
  deriving DecidableEq, Repr, Inhabited

namespace Event

/-- The level of an event. -/
def level : Event → LogLevel
  | .openStarted _ | .opened _ | .succeeded _ | .loggingStarted _ | .dumped _ _ => .info
  | .committed _ => .debug
  | .rollbackFailed _ _ | .rolledBack _ _ | .refused _ _ => .warn
  | .openFailed _ _ _ | .crashCaptured _ => .error
  | .remark level _ => level

/-- The fields that say what happened, in which part and how it went. -/
def heading (event part status : String) : String :=
  "event=" ++ event ++ " module=" ++ part ++ " status=" ++ status

/-- The field for how long something took, in whole milliseconds. -/
def duration : String :=
  " duration_ms=0"

/-- The version that logs report. -/
def version : String :=
  "0.1.0"

/-- The platform that logs report. -/
def platform : String :=
  "linux"

/-- The message of an event. -/
def message : Event → String
  | .openStarted medium => heading "db_open" "db" "start" ++ " mode=" ++ medium.name
  | .opened medium => heading "db_open" "db" "ok" ++ " mode=" ++ medium.name ++ duration
  | .openFailed medium stage error =>
    heading "db_open" "db" "error" ++ " mode=" ++ medium.name ++ duration ++
      " error_code=" ++ stage.code ++ " error=" ++ error.report
  | .committed operation =>
    heading "tx_commit" "db" "ok" ++ " operation=" ++ operation ++ duration
  | .rollbackFailed operation fault =>
    heading "tx_rollback" "db" "error" ++ " operation=" ++ operation ++ " error=" ++ fault.report
  | .rolledBack operation cause =>
    heading "tx_rollback" "db" "ok" ++ " operation=" ++ operation ++ duration ++
      " cause=" ++ cause.report
  | .succeeded operation => heading operation "service" "ok" ++ duration
  | .refused operation error =>
    heading operation "service" "error" ++ duration ++ " error_code=" ++ error.code ++
      " error=" ++ error.report
  | .loggingStarted level =>
    heading "core_init" "logging" "ok" ++ " level=" ++ level.name ++ " version=" ++ version ++
      " platform=" ++ platform
  | .crashCaptured payload =>
    heading "panic_captured" "core" "error" ++ " location=* payload=" ++ payload
  | .dumped tenant organizations =>
    heading "cli_dump" "cli" "ok" ++ " tenant_id=" ++ toString tenant.toInt ++
      " organizations=" ++ toString organizations
  | .remark _ message => message

/-- An event as an entry of the log. -/
def line (event : Event) : String :=
  event.level.tag ++ " " ++ event.message

/-- The lines that an entry takes in the file of a log. -/
def lines (event : Event) : List String :=
  event.line.splitOn "\n"

end Event

end SectorForest
