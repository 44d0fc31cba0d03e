import SectorForest.Toml.Value

/-!
# TOML documents

A document is a list of lines: blank ones, pairs of a key and a value, headers that open a table,
and headers in double brackets that open one more table of a list. `Toml.read?` is the record that a
document denotes; the fields of every record come in the order of the document.
-/

namespace SectorForest.Toml

open Text

/-- A document that is being read. -/
structure Draft where
  /-- The entries outside of every header's table. -/
  entries : Entries := []
  /-- The path of the table that the last header opened. -/
  current : List String := []

namespace Draft

/-- Add a pair to the current table. -/
def addPair (draft : Draft) (path : List String) (key : String) (value : Datum) :
    Option Draft := do
  let entries ← Entries.changeAt false (Entries.addDotted path key value) draft.current false
    draft.entries
  some { draft with entries }

/-- Open the table of a header. -/
def openTable (draft : Draft) (path : List String) (key : String) : Option Draft := do
  let entries ← Entries.changeAt false (Entries.openTable key) path false draft.entries
  some { entries, current := path ++ [key] }

/-- Open one more table of a header in double brackets. -/
def openElement (draft : Draft) (path : List String) (key : String) : Option Draft := do
  let entries ← Entries.changeAt false (Entries.openElement key) path false draft.entries
  some { entries, current := path ++ [key] }

end Draft

/-- Read one line that is not blank, and what follows it. -/
def readLine (draft : Draft) : List Char → Option (Draft × List Char)
  | '[' :: '[' :: rest => do
    let ((path, key), rest) ← keyPath rest
    let rest ← expect? ']' (← expect? ']' rest)
    some (← draft.openElement path key, ← endLine? rest)
  | '[' :: rest => do
    let ((path, key), rest) ← keyPath rest
    let rest ← expect? ']' rest
    some (← draft.openTable path key, ← endLine? rest)
  | cs => do
    let ((path, key), rest) ← keyPath cs
    let rest ← expect? '=' rest
    let (content, rest) ← value maxNesting (skipGaps rest)
    some (← draft.addPair path key content, ← endLine? rest)

/-- Read the lines of a document. -/
def readLines (draft : Draft) (cs : List Char) : Option Draft :=
  match cs with
  | [] => some draft
  | c :: cs =>
    if isGap c ∨ c = '\n' then readLines draft cs
    else
      let line? := if c = '#' ∨ c = '\r' then
          (endLine? (c :: cs)).map fun rest => (draft, rest)
        else readLine draft (c :: cs)
      match line? with
      | none => none
      | some (draft, rest) =>
        if _ : rest.length < cs.length + 1 then readLines draft rest else none
termination_by cs.length

/-- The record that a document denotes, if the text is a document. -/
def read? (text : String) : Option Datum :=
  let cs := text.toList
  let cs := if cs.head? = some '\ufeff' then cs.tail else cs
  (readLines {} cs).map fun draft => .record (entriesData draft.entries)

end SectorForest.Toml
