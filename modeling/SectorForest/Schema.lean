import SectorForest.Storage.Connection
import SectorForest.Store.Error

/-!
# The schema of the store

Organizations and sectors are kept in one table each. `migrate` brings a database to the current
version of the schema, all or nothing; `checkReady` tells whether a database has the version, the
table and the columns that a store needs.

A sector names its parent without a foreign key: deleting a sector removes its direct children with
it, and deeper descendants keep the number of a parent that is gone.
-/

namespace SectorForest

open Storage

namespace Schema

/-! ## Tables -/

/-- The stored numbers of the statuses are those from 0 to 3. -/
def statusCheck : Check where
  text := "status BETWEEN 0 AND 3"
  condition := .both (.atLeast "status" (.int 0)) (.atMost "status" (.int 3))

/-- The table of organizations. -/
def organizations : Definition where
  name := "organizations"
  keyColumn := some "id"
  columns := [
    { name := "tenant_id", affinity := .integer, required := true },
    { name := "code", affinity := .text, required := true },
    { name := "label", affinity := .text, required := true },
    { name := "type", affinity := .text, required := true },
    { name := "status", affinity := .integer, required := true }]
  checks := [
    { text := "type IN ('lxsi', 'bu', 'community', 'enterprise')"
      condition :=
        .oneOf "type" [.text "lxsi", .text "bu", .text "community", .text "enterprise"] },
    statusCheck]
  uniques := [["tenant_id", "code"], ["tenant_id", "label"]]

/-- A sector without a parent has depth zero, one with a parent a greater depth. -/
def parentCheck : Check where
  text := "(has_parent = 0 AND parent_id IS NULL AND depth = 0)\n" ++
    "        OR (has_parent = 1 AND parent_id IS NOT NULL AND depth > 0)"
  condition := .either
    (.both (.both (.equals "has_parent" (.int 0)) (.isNull "parent_id")) (.equals "depth" (.int 0)))
    (.both (.both (.equals "has_parent" (.int 1)) (.isNotNull "parent_id"))
      (.atLeast "depth" (.int 1)))

/-- The table of sectors. -/
def sectors : Definition where
  name := "sectors"
  keyColumn := some "id"
  columns := [
    { name := "tenant_id", affinity := .integer, required := true },
    { name := "org_id", affinity := .integer, required := true },
    { name := "code", affinity := .text, required := true },
    { name := "label", affinity := .text, required := true },
    { name := "parent_id", affinity := .integer },
    { name := "has_parent", affinity := .integer, required := true },
    { name := "depth", affinity := .integer, required := true },
    { name := "status", affinity := .integer, required := true }]
  checks := [
    { text := "has_parent IN (0, 1)", condition := .oneOf "has_parent" [.int 0, .int 1] },
    { text := "depth >= 0", condition := .atLeast "depth" (.int 0) },
    statusCheck,
    parentCheck]
  uniques := [["code"], ["tenant_id", "label"]]
  references := [{ column := "org_id", table := "organizations", key := "id" }]

/-! ## Migrations -/

/-- The text from the first index on, for messages. -/
def parentIndexText : String :=
  "\n\nCREATE INDEX IF NOT EXISTS idx_sectors_parent\n    ON sectors (parent_id);\n"

/-- The text from the index over tenants and organizations on, for messages. -/
def organizationIndexText : String :=
  "\n\nCREATE INDEX IF NOT EXISTS idx_sectors_tenant_org\n    ON sectors (tenant_id, org_id);" ++
    parentIndexText

/-- The statements that bring a database to version 1. -/
def firstMigration : List Statement := [
  .createTable organizations true,
  .createTable sectors true,
  .createIndex
    { name := "idx_sectors_tenant_org", table := "sectors", columns := ["tenant_id", "org_id"] }
    organizationIndexText [68, 79],
  .createIndex
    { name := "idx_sectors_parent", table := "sectors", columns := ["parent_id"] }
    parentIndexText [64]]

/-- Every migration after the version that it leads to, in increasing order. -/
def migrations : List (Nat × List Statement) :=
  [(1, firstMigration)]

/-- The version that the last migration leads to. -/
def latestVersion : Nat :=
  migrations.getLast?.elim 0 (·.1)

/-- The version of a database. A negative one is refused. -/
def version (c : Connection) : Except Fault Nat :=
  if 0 ≤ c.database.version then .ok c.database.version.toNat
  else .error (.outOfRange c.database.version 0)

/-- The statements of the migrations above a version, each followed by the change of the version. -/
def pending (current : Nat) : List Statement :=
  (migrations.filter fun m => current < m.1).flatMap fun m => m.2 ++ [.setVersion m.1]

/-- Run the pending migrations in one transaction. A failure undoes all of them. -/
def migrate : Connection → Except DatabaseError Unit × Connection := fun c =>
  match version c with
  | .error fault => (.error (.storage fault), c)
  | .ok current =>
    if latestVersion < current then (.error (.unsupportedVersion current latestVersion), c)
    else if current = latestVersion then (.ok (), c)
    else
      match Connection.beginDeferred c with
      | (.error fault, c) => (.error (.storage fault), c)
      | (.ok (), c) =>
        match Connection.executeAll (pending current) c with
        | (.error fault, c) => (.error (.storage fault), c.undone)
        | (.ok (), c) =>
          match Connection.commit c with
          | (.error fault, c) => (.error (.storage fault), c.undone)
          | (.ok (), c) => (.ok (), c)

/-! ## Readiness -/

/-- Whether a database has the current version and, under exactly these names, a table with the
given columns. -/
def checkReady (c : Connection) (table : String) (columns : List String) :
    Except StoreError Unit :=
  match version c with
  | .error fault => .error (.ofFault fault)
  | .ok found =>
    if found ≠ latestVersion then .error (.wrongVersion latestVersion found)
    else
      let isThere := c.database.tables.any fun t =>
        t.definition.part == .main && t.definition.name == table
      match if isThere then c.database.table? table else none with
      | none => .error (.missingTable table)
      | some t =>
        match columns.find? fun column => !t.definition.columnNames.contains column with
        | some column => .error (.missingColumn table column)
        | none => .ok ()

end Schema

end SectorForest
