import SectorForest.Toml.Number
import SectorForest.Toml.Tree

/-!
# Keys and values in TOML

A key is a list of parts between dots. A value is a text, a number, a date, a truth value, an array
or an inline table. Arrays run over lines and may end in a comma; an inline table does neither, and
grows by the same rules as the tables of the document. Brackets and braces nest to a fixed depth.
-/

namespace SectorForest.Toml

open Text

/-- How many brackets and braces may stand around a value. -/
def maxNesting : Nat := 79

/-- How many parts a key may have. -/
def maxKeyParts : Nat := 79

/-- A character of a key without quotes. -/
def isKeyChar (c : Char) : Bool :=
  c.isAlphanum || c = '_' || c = '-'

/-- A part of a key. -/
def keyPart (cs : List Char) : Option (String × List Char) :=
  match quotedKey cs with
  | some (text, rest) => some (String.ofList text, rest)
  | none =>
    let name := cs.takeWhile isKeyChar
    if name.isEmpty then none else some (String.ofList name, cs.dropWhile isKeyChar)

/-- A part of a key with blanks around it. -/
def spacedKeyPart (cs : List Char) : Option (String × List Char) :=
  (keyPart (skipGaps cs)).map fun (part, rest) => (part, skipGaps rest)

/-- A key: the parts that lead to its table, and its last part. -/
def keyPath (cs : List Char) : Option ((List String × String) × List Char) := do
  let (parts, rest) ← separated spacedKeyPart '.' cs.length cs
  if maxKeyParts < parts.length then none
  else some ((parts.dropLast, ← parts.getLast?), rest)

/-- A text, a number, a date or a truth value. -/
def scalar : Scan Datum
  | 't' :: 'r' :: 'u' :: 'e' :: rest => some (.boolean true, rest)
  | 'f' :: 'a' :: 'l' :: 's' :: 'e' :: rest => some (.boolean false, rest)
  | cs =>
    match quotedValue cs with
    | some (text, rest) => some (.text (String.ofList text), rest)
    | none => numberOrDate cs

/-- An item of an array, with what may stand around it. -/
def arrayItem (value : Scan Datum) (cs : List Char) : Option (Datum × List Char) :=
  (value (skipLines false cs)).map fun (item, rest) => (item, skipLines false rest)

/-- The rest of an array behind its bracket. -/
def arrayRest (value : Scan Datum) (cs : List Char) : Option (Datum × List Char) :=
  match separated (arrayItem value) ',' cs.length cs with
  | some (items, rest) => do
    let rest := skipLines false ((expect? ',' rest).getD rest)
    some (.list items, ← expect? ']' rest)
  | none => do some (.list [], ← expect? ']' (skipLines false cs))

/-- A key and a value in an inline table. -/
def inlinePair (value : Scan Datum) (cs : List Char) :
    Option (((List String × String) × Datum) × List Char) := do
  let (key, cs) ← keyPath cs
  let cs ← expect? '=' cs
  let (content, cs) ← value (skipGaps cs)
  some ((key, content), skipGaps cs)

/-- The rest of an inline table behind its brace. -/
def inlineRest (value : Scan Datum) (cs : List Char) : Option (Datum × List Char) := do
  let (pairs, rest) := (separated (inlinePair value) ',' cs.length cs).getD ([], skipGaps cs)
  let rest ← expect? '\x7d' rest
  let entries ← pairs.foldlM
    (fun entries pair => Entries.addDotted pair.1.1 pair.1.2 pair.2 false entries) []
  some (.record (entriesData entries), rest)

/-- A value with at most `depth` brackets and braces around its parts. -/
def value : (depth : Nat) → Scan Datum
  | 0, '[' :: _ => none
  | 0, '\x7b' :: _ => none
  | depth + 1, '[' :: rest => arrayRest (value depth) rest
  | depth + 1, '\x7b' :: rest => inlineRest (value depth) rest
  | _, cs => scalar cs

end SectorForest.Toml
