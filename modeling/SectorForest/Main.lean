import SectorForest.Dump

/-!
# The program

The program around `runCommand`: it looks at the places on the disk that the command may visit, runs
the command on what is there, and brings what came of it to the disk.

A database that the command makes holds no rows and is kept as an empty file. Lines of the log are
added to what the log held before.
-/

namespace SectorForest

/-- The text that names a place. -/
def Location.text (place : Location) : String :=
  "/" ++ String.intercalate "/" place

/-- The places that some steps lead through from a place. -/
def placesAlong (place : Location) : List String → List Location
  | [] => [place]
  | step :: rest =>
    let next := if step = "." then place else if step = ".." then place.dropLast
      else place ++ [step]
    place :: placesAlong next rest

/-- The places that a path leads through when it is followed from a directory. -/
def pathPlaces (directory : Location) (path : String) : List Location :=
  placesAlong (pathStart path directory) (pathSteps path)

/-- The paths that are followed to open a database with the given settings. -/
def DatabaseConfig.filePaths (c : DatabaseConfig) : List String :=
  match c.path.map Storage.Address.ofText with
  | some (.ok address) =>
    if address.isMemory then [] else address.path :: address.permissionsOf.toList
  | _ => []

/-- The paths that a command with the given configuration follows. -/
def Config.paths (c : Config) : List String :=
  (c.logging.dir.map (· ++ "/" ++ logFileName)).toList ++ c.database.filePaths

/-- Add to the known files what is on the disk at a place. -/
def look (files : Files) (place : Location) : IO Files := do
  if files.holds place then return files
  try
    return files.put place (.bytes (← IO.FS.readBinFile place.text))
  catch
    -- a directory is opened like a file and then has nothing to read
    | .inappropriateType none _ _ =>
      return { files with directories := files.directories ++ [place] }
    | _ => return files

/-- Add to the known files what is on the disk along a path. -/
def lookAlong (directory : Location) (files : Files) (path : String) : IO Files :=
  (pathPlaces directory path).foldlM look files

/-- Bring one file to the disk. What was read from there is there already. -/
def keepFile (before : Files) : Location × FileContent → IO Unit
  | (_, .bytes _) => pure ()
  | (place, .database _) => do
    if (before.file? place).isNone then IO.FS.writeFile place.text ""
  | (place, .log lines) => do
    let log ← IO.FS.Handle.mk place.text .append
    lines.forM log.putStrLn

/-- Bring the directories and files that are new or changed to the disk. -/
def keep (before after : Files) : IO Unit := do
  for place in after.directories do
    if !before.isDirectory place then IO.FS.createDirAll place.text
  after.files.forM (keepFile before)

/-- Run the command with its arguments in the working directory. -/
def runProgram (arguments : List String) : IO UInt8 := do
  let here := toString (← IO.currentDir)
  let directory := pathSteps here
  let files ← (here :: arguments.take 1).foldlM (lookAlong directory) {}
  let files ← match commandConfig files directory arguments with
    | .ok config => config.paths.foldlM (lookAlong directory) files
    | .error _ => pure files
  let result := runCommand files directory arguments
  keep files result.files
  IO.print result.stdout
  IO.eprint result.stderr
  return result.exitCode

end SectorForest

/-- Run the command and hand its exit code on. -/
def main (arguments : List String) : IO UInt32 := do
  return (← SectorForest.runProgram arguments).toUInt32
