import SectorForest.Event
import SectorForest.Storage.Database

/-!
# Files

`Files` is what a tree of files holds: directories, and files with bytes, a database or lines of a
log. A path is a text whose steps are parted by slashes; it is followed from a directory step by
step, and every step but the last has to lead to a directory.

`makeDirectories` makes a directory with all that lead to it. It refuses like the making of a single
directory does where something other than a directory is in the way.
-/

namespace SectorForest

/-- A place in a tree of files: the names that lead to it from the root. -/
abbrev Location := List String

/-- Why nothing can be read or made at a path. -/
inductive PathError where
  | notFound
  | exists
  | notDirectory
  | isDirectory
  | nameTooLong
  | zeroByte
  | notText
  deriving DecidableEq, Repr, Inhabited

/-- The wording of a path error. -/
def PathError.message : PathError → String
  | .notFound => "No such file or directory (os error 2)"
  | .exists => "File exists (os error 17)"
  | .notDirectory => "Not a directory (os error 20)"
  | .isDirectory => "Is a directory (os error 21)"
  | .nameTooLong => "File name too long (os error 36)"
  | .zeroByte => "file name contained an unexpected NUL byte"
  | .notText => "stream did not contain valid UTF-8"

/-- What a file holds. -/
inductive FileContent where
  | bytes (content : ByteArray)
  | database (content : Storage.Database)
  | log (lines : List String)
  deriving Inhabited

/-- What a tree of files holds. The root is always a directory. -/
structure Files where
  directories : List Location := []
  files : List (Location × FileContent) := []
  /-- The databases to which another client holds the right to write. -/
  contended : List Location := []
  deriving Inhabited

/-- The steps of a path. -/
def pathSteps (path : String) : List String :=
  ((path.toList.splitOn '/').filter fun step => !step.isEmpty).map String.ofList

/-- Whether a path starts at the root. -/
def isAbsolute (path : String) : Bool :=
  path.startsWith "/"

/-- The place from which a path is followed. -/
def pathStart (path : String) (directory : Location) : Location :=
  if isAbsolute path then [] else directory

/-- The least size of a path, in bytes, that is too long to be followed. -/
def tooLongPath : Nat := 4096

/-- The greatest size of a name in a directory, in bytes. -/
def longestName : Nat := 255

/-- Whether a path can be followed at all. -/
def checkPath (path : String) : Except PathError Unit :=
  if path.contains '\x00' then .error .zeroByte
  else if path.isEmpty then .error .notFound
  else if tooLongPath ≤ path.utf8ByteSize then .error .nameTooLong
  else .ok ()

namespace Files

/-- Whether a place is a directory. -/
def isDirectory (fs : Files) (place : Location) : Bool :=
  place.isEmpty || fs.directories.contains place

/-- The content of the file at a place. -/
def file? (fs : Files) (place : Location) : Option FileContent :=
  (fs.files.find? (·.1 == place)).map (·.2)

/-- Whether there is anything at a place. -/
def holds (fs : Files) (place : Location) : Bool :=
  fs.isDirectory place || (fs.file? place).isSome

/-- Put a content at a place, instead of what the file there held before. -/
def put (fs : Files) (place : Location) (content : FileContent) : Files :=
  if (fs.file? place).isSome then
    { fs with files := fs.files.map fun f => if f.1 == place then (place, content) else f }
  else { fs with files := fs.files ++ [(place, content)] }

/-- Where one step leads from a place. -/
def step (fs : Files) (place : Location) (name : String) : Except PathError Location :=
  if fs.isDirectory place then
    if name = "." then .ok place
    else if name = ".." then .ok place.dropLast
    else if longestName < name.utf8ByteSize then .error .nameTooLong
    else .ok (place ++ [name])
  else if (fs.file? place).isSome then .error .notDirectory
  else .error .notFound

/-- Where some steps lead from a place. There need not be anything at the end of the last one. -/
def follow (fs : Files) (place : Location) (steps : List String) : Except PathError Location :=
  steps.foldlM fs.step place

/-- The bytes of the file that a path leads to. -/
def readBytes (fs : Files) (directory : Location) (path : String) : Except PathError ByteArray := do
  checkPath path
  let place ← fs.follow (pathStart path directory) (pathSteps path)
  if fs.isDirectory place then .error .isDirectory
  match fs.file? place with
  | none => .error .notFound
  | some content =>
    if path.endsWith "/" then .error .notDirectory
    match content with
    | .bytes content => .ok content
    -- the bytes of a database are no text from the start
    | .database _ => .ok ⟨#[0xFF]⟩
    | .log lines => .ok (String.join (lines.map (· ++ "\n"))).toUTF8

/-- Whether a path leads to something; one that ends in a slash, to a directory. -/
def leadsTo (fs : Files) (directory : Location) (path : String) : Bool :=
  match checkPath path, fs.follow (pathStart path directory) (pathSteps path) with
  | .ok (), .ok place => if path.endsWith "/" then fs.isDirectory place else fs.holds place
  | _, _ => false

/-- The text of the file that a path leads to. -/
def readText (fs : Files) (directory : Location) (path : String) : Except PathError String := do
  match String.fromUTF8? (← fs.readBytes directory path) with
  | some text => .ok text
  | none => .error .notText

/-- Make the directory that some steps lead to from a place. -/
def makeDirectory (fs : Files) (place : Location) (steps : List String) :
    Except PathError Files := do
  let target ← fs.follow place steps
  if fs.holds target then .error .exists
  else if steps.getLast? == some "." then .error .notFound
  else .ok { fs with directories := fs.directories ++ [target] }

/-- Whether some steps lead from a place to a directory. -/
def leadsToDirectory (fs : Files) (place : Location) (steps : List String) : Bool :=
  match fs.follow place steps with
  | .ok target => fs.isDirectory target
  | .error _ => false

/-- Make the directory that some steps lead to; it may be there already. -/
def ensureDirectory (fs : Files) (place : Location) (steps : List String) :
    Except PathError Files :=
  match fs.makeDirectory place steps with
  | .ok fs => .ok fs
  | .error error => if fs.leadsToDirectory place steps then .ok fs else .error error

/-- The steps without those at the end that stay where they are. -/
def withoutStays (steps : List String) : List String :=
  (steps.reverse.dropWhile (· == ".")).reverse

/-- The steps that lead to the directory above. A step that stays where it is counts for nothing in
front of the last name as behind it. -/
def above (steps : List String) : List String :=
  withoutStays (withoutStays steps).dropLast

theorem length_withoutStays_le (steps : List String) :
    (withoutStays steps).length ≤ steps.length := by
  simpa [withoutStays] using (List.dropWhile_sublist (· == ".") (l := steps.reverse)).length_le

theorem length_above_lt {steps : List String} (h : steps ≠ []) :
    (above steps).length < steps.length := by
  have hd := length_withoutStays_le steps
  have ha := length_withoutStays_le (withoutStays steps).dropLast
  have hp : 0 < steps.length := List.length_pos_iff.2 h
  simp only [List.length_dropLast] at ha
  simp only [above]
  omega

/-- Make the directory that some steps lead to, and the directories on the way to it. -/
def makeDirectories (fs : Files) (place : Location) (steps : List String) :
    Except PathError Files :=
  match fs.ensureDirectory place steps with
  | .error .notFound =>
    if _ : steps = [] then .error .notFound
    else do
      let fs ← fs.makeDirectories place (above steps)
      fs.ensureDirectory place steps
  | result => result
termination_by steps.length
decreasing_by exact length_above_lt ‹_›

/-- Make the directory that an absolute path leads to, and the directories on the way to it. -/
def makePath (fs : Files) (path : String) : Except PathError Files := do
  checkPath path
  fs.makeDirectories [] (pathSteps path)

end Files

end SectorForest
