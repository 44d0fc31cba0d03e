import SectorForest.Storage.Fault
import SectorForest.Text.Lossy
import SectorForest.Text.Scan

/-!
# Addresses of databases

An address names a database and says what may be done with it. It is the path of a file, or a text
that starts with `file:` and goes on with a path and parameters. In the second form a percent sign
with two hexadecimal digits stands for a byte, a host other than this one is refused, and a number
sign ends the address.

Of the parameters, `mode` sets what may be done, `cache` and `vfs` name ways to reach the file,
`immutable` tells that the file does not change, `nolock` that no lock is needed, and `modeof` names
a file to take the permissions of. Where several set a mode, one that asks to do more with the file
than the one before it is refused.
-/

namespace SectorForest.Storage

open Text

/-- What may be done with a database, and with the file that holds it. -/
inductive Access where
  | read
  /-- Read and write a file that exists. -/
  | write
  /-- Read and write a file, which is created if there is none. -/
  | create
  /-- Read and write a database that has no file. -/
  | memory
  deriving DecidableEq, Repr, Inhabited

/-- The access that a mode stands for. -/
def Access.ofMode? : String → Option Access
  | "ro" => some .read
  | "rw" => some .write
  | "rwc" => some .create
  | "memory" => some .memory
  | _ => none

/-- Whether a mode may follow another: it asks for no more, or one of them is without a file. -/
def Access.admits : Access → Access → Bool
  | _, .memory | .memory, _ | .create, _ | _, .read => true
  | .write, requested => requested == .write
  | .read, _ => false

/-- How a file is reached. -/
inductive Layer where
  | disk
  /-- The file lies on a disk, and its lock is a directory beside it. -/
  | lockedBeside
  /-- The file is only kept in memory. -/
  | inMemory
  deriving DecidableEq, Repr, Inhabited

/-- The layer of a name. -/
def Layer.named? : String → Option Layer
  | "unix" | "unix-none" | "unix-excl" => some .disk
  | "unix-dotfile" => some .lockedBeside
  | "memdb" => some .inMemory
  | _ => none

/-- A database and what may be done with it. -/
structure Address where
  path : String
  access : Access := .create
  layer : Layer := .disk
  /-- Whether the file is said not to change. -/
  immutable : Bool := false
  /-- Whether the file is said to need no lock. -/
  lockless : Bool := false
  /-- The path of the file whose permissions a new file gets. -/
  permissionsOf : Option String := none
  deriving DecidableEq, Repr, Inhabited

namespace Address

/-- A path of this text names no file, but a database in memory. -/
def memoryPath : String :=
  ":memory:"

/-- Whether the database has no file, not even one in memory. -/
def isFileless (a : Address) : Bool :=
  a.access == .memory || a.path == memoryPath || a.path.isEmpty

/-- Whether the database has no file on a disk. -/
def isMemory (a : Address) : Bool :=
  a.isFileless || a.layer == .inMemory

/-- Whether the database is only read. A database without a file does change, whatever is said. -/
def isReadOnly (a : Address) : Bool :=
  a.access == .read || a.immutable && !a.isFileless

/-- Whether a directory beside the file is its lock. -/
def isLockedBeside (a : Address) : Bool :=
  a.layer == .lockedBeside && !a.immutable && !a.lockless

/-! ## The text of an address -/

/-- The parts of a text before and after the first of the given character. -/
def cut (mark : Char) (text : List Char) : List Char × List Char :=
  (text.takeWhile (· != mark), (text.dropWhile (· != mark)).drop 1)

/-- The bytes that a piece of an address stands for. A zero byte ends the piece. -/
def decodeBytes : List Char → List UInt8
  | '%' :: a :: b :: rest =>
    match hexNumber? [a, b] with
    | some 0 => []
    | some byte => byte.toUInt8 :: decodeBytes rest
    | none => '%'.toUInt8 :: decodeBytes (a :: b :: rest)
  | c :: rest => String.utf8EncodeChar c ++ decodeBytes rest
  | [] => []

/-- The text that a piece of an address stands for. -/
def decodePiece (piece : List Char) : String :=
  Text.ofBytes (decodeBytes piece)

/-- The parameters in the part of an address that holds them. One without a name is passed over. -/
def parameters (text : List Char) : List (String × String) :=
  ((String.ofList text).splitOn "&").filterMap fun parameter =>
    let (name, value) := cut '=' parameter.toList
    let name := decodePiece name
    if name.isEmpty then none else some (name, decodePiece value)

/-- The number below `2 ^ 31` at the beginning of a text, in base ten or, behind `0x`, in base
sixteen; zero if it is greater. -/
def leadingNumber (text : List Char) : Nat :=
  let number := match text with
    | '0' :: x :: c :: rest =>
      if (x = 'x' || x = 'X') && (hexDigit? c).isSome then
        digitsValue 16 ((c :: rest).takeWhile fun c => (hexDigit? c).isSome)
      else digitsValue 10 (text.takeWhile Char.isDigit)
    | _ => digitsValue 10 (text.takeWhile Char.isDigit)
  if number < 0x80000000 then number else 0

/-- Whether the value of a parameter means yes: one of some words, or a number of which the lowest
eight bits are not zero. -/
def isYes (value : String) : Bool :=
  if value.toList.head?.any Char.isDigit then leadingNumber value.toList % 256 != 0
  else ["on", "yes", "true"].contains (value.map Char.toLower)

/-- What the parameters make of the access, taken one after the other. -/
def readAccess (access : Access) (parameter : String × String) : Except Fault Access :=
  match parameter with
  | ("mode", value) =>
    match Access.ofMode? value with
    | none => .error (.noMode "access" value)
    | some requested =>
      if access.admits requested then .ok requested else .error (.modeNotAllowed value)
  | ("cache", value) =>
    if value = "shared" ∨ value = "private" then .ok access else .error (.noMode "cache" value)
  | _ => .ok access

/-- The part of an address behind the host, which is this one if it is named. -/
def withoutHost : List Char → Except Fault (List Char)
  | '/' :: '/' :: rest =>
    let host := String.ofList (rest.takeWhile (· != '/'))
    if host.isEmpty ∨ host = "localhost" then .ok (rest.dropWhile (· != '/'))
    else .error (.foreignHost host)
  | text => .ok text

/-- The address that the text behind `file:` spells out. -/
def ofIdentifier (text : List Char) : Except Fault Address := do
  let rest ← withoutHost text
  let (path, query) := cut '?' (rest.takeWhile (· != '#'))
  let parameters := parameters query
  let access ← parameters.foldlM readAccess .create
  let layer := (parameters.reverse.lookup "vfs").getD "unix"
  match Layer.named? layer with
  | none => .error (.noLayer layer)
  | some layer =>
    pure {
      path := decodePiece path
      access
      layer
      immutable := (parameters.lookup "immutable").any isYes
      lockless := (parameters.lookup "nolock").any isYes
      permissionsOf := parameters.lookup "modeof" }

/-- The address that a text spells out. -/
def ofText (text : String) : Except Fault Address :=
  match text.toList with
  | 'f' :: 'i' :: 'l' :: 'e' :: ':' :: rest => ofIdentifier rest
  | _ => .ok { path := text }

end Address

end SectorForest.Storage
