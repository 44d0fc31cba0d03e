import SectorForest.Config
import SectorForest.Datum.Pretty
import SectorForest.Logging
import SectorForest.Session

/-!
# The command

The command prints the trees of all organizations of the configured tenant as JSON. Its only
argument is the file of the configuration; without one, the defaults apply. An organization whose
tree cannot be built is listed with the code of the error in place of its tree, and the others are
not affected.

`runCommand` is the whole command as a function: from the files, the working directory and the
arguments to what it prints, its exit code and the files afterwards.
-/

namespace SectorForest

/-- The entry of an organization in the output. -/
def dumpEntry (organization : Organization) (tree : Except Failure SectorTree) : Datum :=
  let treeDatum := match tree with
    | .ok tree => tree.toDatum
    | .error (.refused error) => .record [("error", .text error.code)]
    | .error .tooDeep => .null
  .record [("code", .text organization.code), ("label", .text organization.label),
    ("type", organization.kind.toDatum), ("tree", treeDatum)]

namespace Backend

variable {m : Type → Type} [Monad m] (b : Backend m)

/-- The output: one entry for every organization of a tenant. -/
def dump (tenant : TenantId) : Serving m (List Datum) := do
  let organizations ← b.listOrganizations tenant
  let entries ← organizations.mapM fun organization => do
    pure (dumpEntry organization (← ending (b.sectorTree tenant organization.code)))
  b.emit (.dumped tenant entries.length)
  pure entries

end Backend

/-- How a command ended. -/
structure CommandResult where
  exitCode : UInt8
  stdout : String
  stderr : String
  files : Files

/-- What a command that fails prints. -/
def failed (message : String) (files : Files) : CommandResult where
  exitCode := 1
  stdout := ""
  stderr := "orgtree: " ++ message ++ "\n"
  files := files

/-- Write events to the log, if it is active. -/
def writeEvents (log : Option ActiveLog) (events : List Event) (files : Files) : Files :=
  match log with
  | none => files
  | some log => events.foldl (fun files event => log.write event files) files

/-- What a command that crashes prints. The log tells of the crash. -/
def crashed (log : Option ActiveLog) (message : String) (files : Files) : CommandResult where
  exitCode := 101
  stdout := ""
  stderr := message ++ "\n"
  files := writeEvents log [crashEvent (some message)] files

/-- Print the trees of the configured tenant. -/
def runConfigured (config : Config) (files : Files) (directory : Location) : CommandResult :=
  let ((result, log), files) :=
    (activateFrom (m := StateM Files) (startLog false) config.logging.level config.logging.dir
      none).run files
  match result with
  | .error error => failed error.message files
  | .ok _ =>
    let opening := config.database.openDatabase files directory
    let files := writeEvents log opening.events opening.files
    match opening.result with
    | .error (.refused error) => failed error.report files
    | .error .timeoutTooLong => crashed log "too big" files
    | .ok connection =>
      let serving : Serving (StateM Session) (List Datum) := do
        Session.ready
        Session.backend.dump config.tenant.defaultId
      let (result, session) := serving.run.run { connection }
      let files := writeEvents log session.events files
      match result with
      | .error (.refused error) => failed error.report files
      | .error .tooDeep => crashed log "attempt to add with overflow" files
      | .ok entries =>
        { exitCode := 0, stdout := (Datum.list entries).pretty ++ "\n", stderr := "", files }

/-- The configuration that the arguments name. -/
def commandConfig (files : Files) (directory : Location) : List String → Except ConfigError Config
  | [] => .ok {}
  | path :: _ => Config.load files directory path

/-- Run the command with its arguments. -/
def runCommand (files : Files) (directory : Location) (arguments : List String) : CommandResult :=
  match commandConfig files directory arguments with
  | .error error => failed error.message files
  | .ok config => runConfigured config files directory

end SectorForest
