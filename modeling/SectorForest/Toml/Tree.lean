import SectorForest.Datum

/-!
# Growing the tables of a TOML document

The tables of a document grow entry by entry. An `Entry` is a value, a table, or the tables that
double-bracket headers open one after the other. A table knows how it came to be: by its own header,
on the way to another header, or by a dotted key. That decides who may add to it:

* a dotted key passes through tables that only dotted keys made;
* a header passes through any table, and through the last of several;
* a header may name a table that exists only if it was made on the way to another header, and the
  table then takes its place after those before it.

`Entries.toDatum` forgets how the tables came to be; the fields of a record keep the order in which
the entries were added.
-/

namespace SectorForest.Toml

/-- What stands under a key. -/
inductive Entry where
  | value (content : Datum)
  /-- A table; whether it was made on the way to something else, and by a dotted key. -/
  | table (implied dotted : Bool) (entries : List (String × Entry))
  /-- The tables that the headers of one name have opened. -/
  | tables (elements : List (List (String × Entry)))
  deriving Inhabited

/-- The entries of a table, in the order in which they were added. -/
abbrev Entries := List (String × Entry)

namespace Entries

/-- The entry under a key. -/
def get? (entries : Entries) (key : String) : Option Entry :=
  (entries.find? (·.1 == key)).map (·.2)

/-- The entries with another one under a key, in the place of the old. -/
def replace (entries : Entries) (key : String) (entry : Entry) : Entries :=
  entries.map fun e => if e.1 == key then (key, entry) else e

/-- The entries without the one under a key. -/
def remove (entries : Entries) (key : String) : Entries :=
  entries.filter fun e => !(e.1 == key)

/-- A change of the entries of a table; it is told whether a dotted key made the table. It fails
where the document breaks a rule. -/
abbrev Change := (dotted : Bool) → Entries → Option Entries

/-- Change the last of several tables. -/
def changeLast (change : Entries → Option Entries) : List Entries → Option (List Entries)
  | [] => none
  | [entries] => (change entries).map fun entries => [entries]
  | entries :: rest => (changeLast change rest).map (entries :: ·)

/-- Change the table that a path leads to. Tables that are missing on the way are made; `dotted`
tells whether the path is that of a dotted key. -/
def changeAt (dotted : Bool) (change : Change) : (path : List String) → Change
  | [], own, entries => change own entries
  | key :: path, _, entries =>
    match get? entries key with
    | none => do
      let inner ← changeAt dotted change path dotted []
      some (entries ++ [(key, .table true dotted inner)])
    | some (.value _) => none
    | some (.table implied own inner) =>
      if dotted && !implied then none
      else do
        let inner ← changeAt dotted change path own inner
        some (replace entries key (.table implied own inner))
    | some (.tables elements) => do
      some (replace entries key
        (.tables (← changeLast (changeAt dotted change path false) elements)))

/-- Add a value under a key. Only a dotted key adds to a table that dotted keys made. -/
def addValue (viaPath : Bool) (key : String) (value : Entry) : Change := fun own entries =>
  if own != viaPath then none
  else if (get? entries key).isSome then none
  else some (entries ++ [(key, value)])

/-- Add a value under a dotted key. -/
def addDotted (path : List String) (key : String) (value : Datum) : Change :=
  changeAt true (addValue (!path.isEmpty) key (.value value)) path

/-- Open the table of a header's last key. -/
def openTable (key : String) : Change := fun _ entries =>
  match get? entries key with
  | none => some (entries ++ [(key, .table false false [])])
  | some (.table true false inner) => some (remove entries key ++ [(key, .table false false inner)])
  | some _ => none

/-- Open one more table of a double-bracket header's last key. -/
def openElement (key : String) : Change := fun _ entries =>
  match get? entries key with
  | none => some (entries ++ [(key, .tables [[]])])
  | some (.tables elements) => some (replace entries key (.tables (elements ++ [[]])))
  | some _ => none

end Entries

mutual

/-- An entry as a datum. -/
def Entry.toDatum : Entry → Datum
  | .value content => content
  | .table _ _ entries => .record (entriesData entries)
  | .tables elements => .list (elementsData elements)

/-- The entries of a table as the fields of a record. -/
def entriesData : List (String × Entry) → List (String × Datum)
  | [] => []
  | (key, entry) :: rest => (key, entry.toDatum) :: entriesData rest

/-- Several tables as records. -/
def elementsData : List (List (String × Entry)) → List Datum
  | [] => []
  | entries :: rest => .record (entriesData entries) :: elementsData rest

end

end SectorForest.Toml
