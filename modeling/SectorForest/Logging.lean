import SectorForest.Files
import SectorForest.Text.Blank

/-!
# Logging

The log is started at most once: `activate` starts it with a level and a directory, and afterwards
accepts the same settings and refuses others. Levels are taken in any case and with blanks around
them; two directories are the same if they have the same steps. What it takes to start the log is a
parameter, so `activate` is the state machine alone; `startLog` starts a log in a tree of files.
-/

namespace SectorForest

/-- Why the log is not active with the settings asked for. -/
inductive LoggingError where
  | unsupportedLevel (level : String)
  | emptyDirectory
  | relativeDirectory (dir : String)
  | createDirectory (dir : String) (cause : PathError)
  /-- The log could not be started. -/
  | backend
  /-- The log is active with other settings; `setting` is the one that differs. -/
  | alreadyInitialized (setting active requested : String)
  deriving DecidableEq, Repr, Inhabited

/-- The wording of a logging error. -/
def LoggingError.message : LoggingError → String
  | .unsupportedLevel level =>
    "unsupported log level `" ++ level ++ "`; expected trace|debug|info|warn|error"
  | .emptyDirectory => "log_dir cannot be empty"
  | .relativeDirectory dir => "log_dir must be an absolute path, got `" ++ dir ++ "`"
  | .createDirectory dir cause =>
    "failed to create log directory `" ++ dir ++ "`: " ++ cause.message
  | .backend => "failed to start logger"
  | .alreadyInitialized setting active requested =>
    "logging already initialized with " ++ setting ++ " `" ++ active ++
      "`; refusing to switch to `" ++ requested ++ "`"

/-- The settings of an active log. -/
structure ActiveLog where
  level : LogLevel
  dir : String
  deriving DecidableEq, Repr, Inhabited

/-! ## Settings -/

/-- The level that a text names, whatever its case and the blanks around it. -/
def parseLevel (text : String) : Except LoggingError LogLevel :=
  let name := (Text.trim text).map Char.toLower
  if name = "trace" then .ok .trace
  else if name = "debug" then .ok .debug
  else if name = "info" then .ok .info
  else if name = "warn" ∨ name = "warning" then .ok .warn
  else if name = "error" then .ok .error
  else .error (.unsupportedLevel name)

/-- A directory is told from the root. -/
def checkLogDirectory (dir : String) : Except LoggingError Unit :=
  if dir.isEmpty then .error .emptyDirectory
  else if isAbsolute dir then .ok ()
  else .error (.relativeDirectory dir)

/-- Whether two directories have the same steps. -/
def sameDirectory (a b : String) : Bool :=
  (pathSteps a).filter (· != ".") == (pathSteps b).filter (· != ".")

/-- Whether an active log has the settings asked for; the directory is compared first. -/
def checkSameSettings (active : ActiveLog) (level : LogLevel) (dir : String) :
    Except LoggingError Unit :=
  if !sameDirectory active.dir dir then
    .error (.alreadyInitialized "directory" active.dir dir)
  else if active.level ≠ level then
    .error (.alreadyInitialized "level" active.level.name level.name)
  else .ok ()

/-! ## The state machine -/

/-- Start the log with the settings, unless it is active with them already. `start` is what starts
it; if that fails, the log stays off. -/
def activate {m : Type → Type} [Monad m] (start : ActiveLog → m (Except LoggingError Unit))
    (level dir : String) (active : Option ActiveLog) :
    m (Except LoggingError Unit × Option ActiveLog) :=
  match parseLevel level with
  | .error error => pure (.error error, active)
  | .ok level =>
    match checkLogDirectory dir with
    | .error error => pure (.error error, active)
    | .ok () =>
      match active with
      | some log => pure (checkSameSettings log level dir, active)
      | none => do
        match ← start { level, dir } with
        | .ok () => pure (.ok (), some { level, dir })
        | .error error => pure (.error error, none)

/-- Start the log as the settings say, which name no directory if it is to stay off. The answer is
whether the log is active. -/
def activateFrom {m : Type → Type} [Monad m] (start : ActiveLog → m (Except LoggingError Unit))
    (level : String) (dir : Option String) (active : Option ActiveLog) :
    m (Except LoggingError Bool × Option ActiveLog) :=
  match dir with
  | none => pure (.ok false, active)
  | some dir => do
    let (result, active) ← activate start level dir active
    pure (result.map fun () => true, active)

/-! ## Log files -/

/-- The name of the file that a log is written to. -/
def logFileName : String :=
  "orgtree_rCURRENT.log"

/-- The path of the file of a log. -/
def ActiveLog.path (log : ActiveLog) : String :=
  if log.dir.endsWith "/" then log.dir ++ logFileName else log.dir ++ "/" ++ logFileName

/-- The place of the file of a log, if there can be one. -/
def ActiveLog.place? (log : ActiveLog) (files : Files) : Option Location :=
  match checkPath log.path, files.follow [] (pathSteps log.path) with
  | .ok (), .ok place => if files.isDirectory place then none else some place
  | _, _ => none

/-- Write an event to a log, if the log keeps events of its level. An event is lost where there can
be no file for it. -/
def ActiveLog.write (log : ActiveLog) (event : Event) (files : Files) : Files :=
  if log.level.keeps event.level then
    match log.place? files with
    | none => files
    | some place =>
      match files.file? place with
      | some (.log lines) => files.put place (.log (lines ++ event.lines))
      | _ => files.put place (.log event.lines)
  else files

/-- Start a log in a tree of files: make its directory, and write the first event. The file is made
with the first event that the log keeps. Another log may be in charge already. -/
def startLog (occupied : Bool) (log : ActiveLog) (files : Files) :
    Except LoggingError Unit × Files :=
  match files.makePath log.dir with
  | .error cause => (.error (.createDirectory log.dir cause), files)
  | .ok files =>
    if occupied then (.error .backend, files)
    else (.ok (), log.write (.loggingStarted log.level) files)

/-! ## Crashes -/

/-- The greatest number of characters of a crash's payload that an event keeps. -/
def maxPayloadLength : Nat := 160

/-- A character of a payload as an event shows it. -/
def payloadChar (c : Char) : Char :=
  if c = '\n' ∨ c = '\r' then ' ' else c

/-- A text on one line of at most `limit` characters, with dots behind it if there were more. -/
def sanitize (text : String) (limit : Nat) : String :=
  let line := text.toList.map payloadChar
  String.ofList (line.take limit ++ if limit < line.length then ['.', '.', '.'] else [])

/-- The event that tells of a crash; its payload need not be a text. -/
def crashEvent (payload : Option String) : Event :=
  .crashCaptured (sanitize (payload.getD "non-string panic payload") maxPayloadLength)

end SectorForest
