import Mathlib.Data.List.Nodup
import SectorForest.Session

/-!
# The records behind a database

`Records` is what a migrated database holds, without tables, columns and cells: the organizations
and the sectors in the order of their numbers, and the greatest number that each table has given
out. `Records.database` writes records as a database and `Database.records` reads them back through
the readers of the stores; `records_database` says that nothing is lost on the way.

`Records.Sound` lists what the tables themselves guarantee, whoever writes to them.
-/

namespace SectorForest

open Storage

/-- The records of a database, in the order of their numbers. -/
structure Records where
  organizations : List Organization := []
  sectors : List Sector := []
  /-- The greatest number given to an organization so far. -/
  lastOrganization : OrganizationId := 0
  /-- The greatest number given to a sector so far. -/
  lastSector : SectorId := 0
  deriving DecidableEq, Repr, Inhabited

/-! ## Looking records up -/

namespace Records

variable (r : Records) (tenant : TenantId)

/-- The organization of a tenant with a code. -/
def organization? (code : String) : Option Organization :=
  r.organizations.find? fun o => o.tenant == tenant && o.code == code

/-- Whether an organization of a tenant has a code. -/
def hasOrganizationCode (code : String) : Bool :=
  r.organizations.any fun o => o.tenant == tenant && o.code == code

/-- Whether an organization of a tenant has a label. -/
def hasOrganizationLabel (label : String) : Bool :=
  r.organizations.any fun o => o.tenant == tenant && o.label == label

/-- The organizations of a tenant. -/
def organizationsOf : List Organization :=
  r.organizations.filter fun o => o.tenant == tenant

/-- The sector of a tenant with a number. -/
def sector? (id : SectorId) : Option Sector :=
  r.sectors.find? fun s => s.tenant == tenant && s.id == id

/-- The sector of a tenant with a code. -/
def sectorByCode? (code : String) : Option Sector :=
  r.sectors.find? fun s => s.tenant == tenant && s.code == code

/-- The first sector of a tenant with a label. -/
def sectorByLabel? (label : String) : Option Sector :=
  r.sectors.find? fun s => s.tenant == tenant && s.label == label

/-- The first sector of an organization that has no parent. -/
def root? (org : OrganizationId) : Option Sector :=
  r.sectors.find? fun s => s.tenant == tenant && s.org == org && !s.hasParent

/-- The sectors of an organization. -/
def sectorsOf (org : OrganizationId) : List Sector :=
  r.sectors.filter fun s => s.tenant == tenant && s.org == org

/-- The sectors that go when a sector is deleted: it and those that name it as their parent. -/
def goesWith (tenant : TenantId) (id : SectorId) (s : Sector) : Bool :=
  s.tenant == tenant && (s.id == id || s.parent == some id)

variable {r tenant}

theorem organization?_eq_some {code : String} {o : Organization}
    (h : r.organization? tenant code = some o) :
    o ∈ r.organizations ∧ o.tenant = tenant ∧ o.code = code := by
  have hkey := List.find?_some h
  simp only [Bool.and_eq_true, beq_iff_eq] at hkey
  exact ⟨List.mem_of_find?_eq_some h, hkey⟩

theorem sector?_eq_some {id : SectorId} {s : Sector} (h : r.sector? tenant id = some s) :
    s ∈ r.sectors ∧ s.tenant = tenant ∧ s.id = id := by
  have hkey := List.find?_some h
  simp only [Bool.and_eq_true, beq_iff_eq] at hkey
  exact ⟨List.mem_of_find?_eq_some h, hkey⟩

theorem sectorByCode?_eq_some {code : String} {s : Sector}
    (h : r.sectorByCode? tenant code = some s) :
    s ∈ r.sectors ∧ s.tenant = tenant ∧ s.code = code := by
  have hkey := List.find?_some h
  simp only [Bool.and_eq_true, beq_iff_eq] at hkey
  exact ⟨List.mem_of_find?_eq_some h, hkey⟩

theorem sectorByLabel?_eq_some {label : String} {s : Sector}
    (h : r.sectorByLabel? tenant label = some s) :
    s ∈ r.sectors ∧ s.tenant = tenant ∧ s.label = label := by
  have hkey := List.find?_some h
  simp only [Bool.and_eq_true, beq_iff_eq] at hkey
  exact ⟨List.mem_of_find?_eq_some h, hkey⟩

theorem sectorByLabel?_eq_none {label : String} :
    r.sectorByLabel? tenant label = none ↔
      ∀ s ∈ r.sectors, s.tenant = tenant → s.label ≠ label := by
  simp [sectorByLabel?]

theorem isSome_sectorByLabel? {label : String} :
    (r.sectorByLabel? tenant label).isSome = true ↔
      ∃ s ∈ r.sectors, s.tenant = tenant ∧ s.label = label := by
  simp [sectorByLabel?]

theorem root?_eq_some {org : OrganizationId} {s : Sector} (h : r.root? tenant org = some s) :
    s ∈ r.sectors ∧ s.tenant = tenant ∧ s.org = org ∧ s.hasParent = false := by
  have hkey := List.find?_some h
  simp only [Bool.and_eq_true, beq_iff_eq, Bool.not_eq_true'] at hkey
  exact ⟨List.mem_of_find?_eq_some h, hkey.1.1, hkey.1.2, hkey.2⟩

theorem root?_eq_none {org : OrganizationId} :
    r.root? tenant org = none ↔
      ∀ s ∈ r.sectors, s.tenant = tenant → s.org = org → s.hasParent = true := by
  simp [root?]

theorem mem_sectorsOf {org : OrganizationId} {s : Sector} :
    s ∈ r.sectorsOf tenant org ↔ s ∈ r.sectors ∧ s.tenant = tenant ∧ s.org = org := by
  simp [sectorsOf]

theorem goesWith_iff {id : SectorId} {s : Sector} :
    goesWith tenant id s = true ↔ s.tenant = tenant ∧ (s.id = id ∨ s.parent = some id) := by
  simp [goesWith]

end Records

/-! ## Records as a database -/

/-- The row of an organization. -/
def Organization.row (o : Organization) : Row where
  id := o.id
  cells := [.int o.tenant, .text o.code, .text o.label, .text o.kind.name, .int o.status.number]

/-- The row of a sector. -/
def Sector.row (s : Sector) : Row where
  id := s.id
  cells := [.int s.tenant, .int s.org, .text s.code, .text s.label, s.parent.elim .null .int,
    .int (Schema.flagNumber s.hasParent), .int (Int64.ofNat s.depth.toNat), .int s.status.number]

namespace Records

/-- The table of the organizations. -/
def organizationTable (r : Records) : Table where
  definition := Schema.organizations
  rows := r.organizations.map Organization.row
  lastId := r.lastOrganization

/-- The table of the sectors. -/
def sectorTable (r : Records) : Table where
  definition := Schema.sectors
  rows := r.sectors.map Sector.row
  lastId := r.lastSector

/-- The migrated database that holds the given records. -/
def database (r : Records) : Database where
  tables := [r.organizationTable, r.sectorTable]
  indexes := [
    { name := "idx_sectors_tenant_org", table := "sectors", columns := ["tenant_id", "org_id"] },
    { name := "idx_sectors_parent", table := "sectors", columns := ["parent_id"] }]
  version := 1
  remembersNumbers := true

@[simp] theorem organizationTable_definition (r : Records) :
    r.organizationTable.definition = Schema.organizations := rfl

@[simp] theorem organizationTable_rows (r : Records) :
    r.organizationTable.rows = r.organizations.map Organization.row := rfl

@[simp] theorem organizationTable_cell (r : Records) :
    r.organizationTable.cell = Schema.organizations.cell := rfl

@[simp] theorem sectorTable_definition (r : Records) :
    r.sectorTable.definition = Schema.sectors := rfl

@[simp] theorem sectorTable_rows (r : Records) :
    r.sectorTable.rows = r.sectors.map Sector.row := rfl

@[simp] theorem sectorTable_cell (r : Records) :
    r.sectorTable.cell = Schema.sectors.cell := rfl

end Records

deriving instance DecidableEq for Storage.Condition, Storage.Check, Storage.Definition,
  Storage.Table, Storage.Database

/-! ## Columns and cells

The names of columns are compared character by character; the facts about them are computed here
once, so that no later proof looks into a name. -/

namespace Schema

@[simp] theorem organizations_affinity :
    organizations.affinity "id" = .integer ∧ organizations.affinity "tenant_id" = .integer ∧
    organizations.affinity "code" = .text ∧ organizations.affinity "label" = .text ∧
    organizations.affinity "type" = .text ∧ organizations.affinity "status" = .integer := by
  decide

@[simp] theorem sectors_affinity :
    sectors.affinity "id" = .integer ∧ sectors.affinity "tenant_id" = .integer ∧
    sectors.affinity "org_id" = .integer ∧ sectors.affinity "code" = .text ∧
    sectors.affinity "label" = .text ∧ sectors.affinity "parent_id" = .integer ∧
    sectors.affinity "has_parent" = .integer ∧ sectors.affinity "depth" = .integer ∧
    sectors.affinity "status" = .integer := by
  decide

@[simp] theorem organizations_isNumber :
    organizations.isNumber "id" = true ∧ organizations.isNumber "tenant_id" = false ∧
    organizations.isNumber "code" = false ∧ organizations.isNumber "label" = false ∧
    organizations.isNumber "type" = false ∧ organizations.isNumber "status" = false := by
  decide

@[simp] theorem sectors_isNumber :
    sectors.isNumber "id" = true ∧ sectors.isNumber "tenant_id" = false ∧
    sectors.isNumber "org_id" = false ∧ sectors.isNumber "code" = false ∧
    sectors.isNumber "label" = false ∧ sectors.isNumber "parent_id" = false ∧
    sectors.isNumber "has_parent" = false ∧ sectors.isNumber "depth" = false ∧
    sectors.isNumber "status" = false := by
  decide

theorem flag_flagNumber (flagged : Bool) (place : String) :
    flag (flagNumber flagged) place = .ok flagged := by
  cases flagged <;> rfl

end Schema

@[simp] theorem Organization.cell_row (o : Organization) :
    Schema.organizations.cell o.row "id" = .int o.id ∧
    Schema.organizations.cell o.row "tenant_id" = .int o.tenant ∧
    Schema.organizations.cell o.row "code" = .text o.code ∧
    Schema.organizations.cell o.row "label" = .text o.label ∧
    Schema.organizations.cell o.row "type" = .text o.kind.name ∧
    Schema.organizations.cell o.row "status" = .int o.status.number := by
  simp only [Definition.cell, Schema.organizations_isNumber]
  simp [Schema.organizations, Text.sameName, Text.foldName, row]

@[simp] theorem Sector.cell_row (s : Sector) :
    Schema.sectors.cell s.row "id" = .int s.id ∧
    Schema.sectors.cell s.row "tenant_id" = .int s.tenant ∧
    Schema.sectors.cell s.row "org_id" = .int s.org ∧
    Schema.sectors.cell s.row "code" = .text s.code ∧
    Schema.sectors.cell s.row "label" = .text s.label ∧
    Schema.sectors.cell s.row "parent_id" = s.parent.elim .null .int ∧
    Schema.sectors.cell s.row "has_parent" = .int (Schema.flagNumber s.hasParent) ∧
    Schema.sectors.cell s.row "depth" = .int (Int64.ofNat s.depth.toNat) ∧
    Schema.sectors.cell s.row "status" = .int s.status.number := by
  simp only [Definition.cell, Schema.sectors_isNumber]
  simp [Schema.sectors, Text.sameName, Text.foldName, row]

namespace Storage.Cell

theorem asOptionalInt_elim (index : Nat) (column : String) (parent : Option Int64) :
    asOptionalInt index column (parent.elim .null .int) = .ok parent := by
  cases parent <;> rfl

theorem asUInt32_ofNat (index : Nat) (column : String) (depth : UInt32) :
    asUInt32 index column (.int (Int64.ofNat depth.toNat)) = .ok depth := by
  have hlt := depth.toNat_lt
  -- a cell has 64 bits, of which a depth needs 32
  have hint : (Int64.ofNat depth.toNat).toInt = depth.toNat :=
    Int64.toInt_ofNat_of_lt (by omega)
  simp only [asUInt32, asInt, bind, Except.bind, hint]
  rw [if_pos ⟨by omega, by simp only [UInt32.size]; omega⟩]
  simp [pure, Except.pure]

end Storage.Cell

/-! ## Reading rows back -/

/-- Reading the row of an organization gives the organization. -/
theorem Organization.ofCells_row (o : Organization) :
    ofCells (Schema.organizationColumns.map (Schema.organizations.cell o.row)) = .ok o := by
  simp only [ofCells, field, Schema.field, Schema.organizationColumns]
  simp [bind, Except.bind, pure, Except.pure, Cell.asText, Cell.asInt, Except.mapError,
    OrganizationKind.ofName?_name, Status.ofNumber?_number]

/-- Reading the row of a sector gives the sector, if it has a parent's number exactly if it says
that it has a parent. -/
theorem Sector.ofCells_row (s : Sector) (hparent : s.hasParent = s.parent.isSome) :
    ofCells (Schema.sectorColumns.map (Schema.sectors.cell s.row)) = .ok s := by
  simp only [ofCells, field, Schema.field, Schema.sectorColumns]
  simp [bind, Except.bind, pure, Except.pure, Cell.asText, Cell.asInt, Except.mapError,
    Cell.asOptionalInt_elim, Schema.flag_flagNumber, Cell.asUInt32_ofNat,
    Status.ofNumber?_number, hparent]
  simp [← hparent]

/-- Reading the number and the code in the row of a sector gives those of the sector. -/
theorem LabelOwner.ofCells_row (s : Sector) :
    ofCells (["id", "code"].map (Schema.sectors.cell s.row)) =
      .ok { id := s.id, code := s.code } := by
  simp [ofCells, Schema.field, bind, Except.bind, pure, Except.pure, Cell.asText, Cell.asInt,
    Except.mapError]

/-! ## Reading a database back -/

/-- The records that a reader makes of the rows of a table; a row that is no record is left out. -/
def Storage.Database.recordsIn {α : Type} (db : Database) (table : String) (columns : List String)
    (read : List Cell → Except StoreError α) : List α :=
  match db.table? table with
  | none => []
  | some t => t.rows.filterMap fun row => (read (columns.map (t.cell row))).toOption

/-- The greatest number that a table has given out. -/
def Storage.Database.lastIn (db : Database) (table : String) : Int64 :=
  ((db.table? table).map (·.lastId)).getD 0

/-- The records of a database, as the stores read them. -/
def Storage.Database.records (db : Database) : Records where
  organizations := db.recordsIn "organizations" Schema.organizationColumns Organization.ofCells
  sectors := db.recordsIn "sectors" Schema.sectorColumns Sector.ofCells
  lastOrganization := db.lastIn "organizations"
  lastSector := db.lastIn "sectors"

/-- The records behind a session. -/
def Session.records (s : Session) : Records :=
  s.connection.database.records

namespace Records

theorem tableIn?_database (r : Records) :
    r.database.tableIn? .temporary "organizations" = none ∧
    r.database.tableIn? .temporary "sectors" = none ∧
    r.database.tableIn? .main "organizations" = some r.organizationTable ∧
    r.database.tableIn? .main "sectors" = some r.sectorTable := by
  simp [Database.tableIn?, database, organizationTable, sectorTable, Schema.organizations,
    Schema.sectors, Text.sameName, Text.foldName]

@[simp] theorem table?_database (r : Records) :
    r.database.table? "organizations" = some r.organizationTable ∧
    r.database.table? "sectors" = some r.sectorTable := by
  simp [Database.table?, tableIn?_database]

/-- Every sector has a parent's number exactly if it says that it has a parent. -/
def Readable (r : Records) : Prop :=
  ∀ s ∈ r.sectors, s.hasParent = s.parent.isSome

/-- What is written as a database is read back unchanged. -/
theorem records_database {r : Records} (hr : r.Readable) : r.database.records = r := by
  have horganizations : r.database.recordsIn "organizations" Schema.organizationColumns
      Organization.ofCells = r.organizations := by
    simp only [Database.recordsIn, table?_database, organizationTable_rows,
      organizationTable_cell, List.filterMap_map]
    refine (List.filterMap_congr fun o _ => ?_).trans List.filterMap_some
    simp only [Function.comp_apply, Organization.ofCells_row, Except.toOption]
  have hsectors : r.database.recordsIn "sectors" Schema.sectorColumns Sector.ofCells =
      r.sectors := by
    simp only [Database.recordsIn, table?_database, sectorTable_rows, sectorTable_cell,
      List.filterMap_map]
    refine (List.filterMap_congr fun s hs => ?_).trans List.filterMap_some
    simp only [Function.comp_apply, Sector.ofCells_row s (hr s hs), Except.toOption]
  simp only [Database.records, horganizations, hsectors, Database.lastIn, table?_database]
  rfl

end Records

end SectorForest
