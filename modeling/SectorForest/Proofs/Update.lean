import SectorForest.Proofs.Answer
import SectorForest.Proofs.TableChange

/-!
# What the stores change

Every change that the stores make, answered over the records behind a connection's database. A
change either gives other records and an answer, or a fault that the records decide; what can go
wrong beside that is the right to write, which `Connection.change` looks at first.
-/

namespace SectorForest

open Storage

variable {c : Connection} {r : Records}

/-! ## Preparing

Preparing never fails, for the statements of the stores name columns that are there. -/

/-- The table of organizations has the key that the references to it name. -/
theorem Records.keyFault?_organizationTable (r : Records) (concerns : String → Bool)
    (asParent : Bool) :
    r.database.keyFault? r.organizationTable concerns asParent = none := by
  have hkey : Schema.organizations.identifies "id" = true := by decide
  -- references belong to definitions, so that empty tables have the same ones
  have hto : ∀ x ∈ r.database.referencesTo Schema.organizations, x.2.key = "id" := by
    have hempty : r.database.referencesTo Schema.organizations =
        (Records.database {}).referencesTo Schema.organizations := rfl
    rw [hempty]
    decide
  have hother : ∀ x ∈ r.database.referencesTo Schema.organizations,
      (if Schema.organizations.identifies x.2.key then none
        else some (Fault.keyMismatch x.1.name x.2.table)) = none :=
    fun x hx => if_pos (by rw [hto x hx, hkey])
  have hinward : (if asParent then r.database.referencesTo Schema.organizations else []) ⊆
      r.database.referencesTo Schema.organizations := by
    split
    · exact List.Subset.refl _
    · exact List.nil_subset _
  simp only [Database.keyFault?, organizationTable_definition, Option.or_eq_none_iff,
    List.findSome?_eq_none_iff, List.mem_reverse, List.mem_filter]
  exact ⟨fun x hx => absurd hx List.not_mem_nil, fun x hx => hother x (hinward hx.1),
    ite_eq_right_iff.mpr fun _ => List.findSome?_eq_none_iff.mpr fun x hx => hother x (hinward hx)⟩

/-- The table of sectors refers to a key that is there, and nothing refers to it. -/
theorem Records.keyFault?_sectorTable (r : Records) (concerns : String → Bool) (asParent : Bool) :
    r.database.keyFault? r.sectorTable concerns asParent = none := by
  have hkey : Schema.organizations.identifies "id" = true := by decide
  have hfrom : r.database.referencesTo Schema.sectors = [] := by
    have hempty : r.database.referencesTo Schema.sectors =
        (Records.database {}).referencesTo Schema.sectors := rfl
    rw [hempty]
    decide
  have hsectors : ∀ x ∈ Schema.sectors.references, x.table = "organizations" ∧ x.key = "id" := by
    decide
  have hpart : Schema.sectors.part = .main := rfl
  have hinward : (if asParent then r.database.referencesTo Schema.sectors else []) = [] := by
    rw [hfrom, ite_self]
  simp only [Database.keyFault?, sectorTable_definition, hinward, List.filter_nil,
    List.reverse_nil, List.findSome?_nil, ite_self, Option.or_none, List.findSome?_eq_none_iff,
    List.mem_reverse]
  intro x hx
  obtain ⟨htable, hid⟩ := hsectors x hx
  split
  · simp only [htable, hid, hpart, r.tableIn?_database, organizationTable_definition, hkey,
      if_true]
  · rfl

/-- The connection and the answer after a change of records: a change that is refused leaves the
connection as it was, but for running out of numbers, which ends an open transaction. -/
def Storage.Connection.change {α : Type} (c : Connection) (change : Except Fault (α × Records)) :
    Except StoreError α × Connection :=
  match c.writeFault? .main with
  | some fault => (.error (.ofFault fault), c)
  | none =>
    match change with
    | .ok (a, r) => (.ok a, { c with database := r.database })
    | .error .full => (.error (.ofFault .full), c.undone)
    | .error fault => (.error (.ofFault fault), c)

/-- A statement that is well prepared answers as the change of records that it stands for. -/
theorem StoreAction.execute_eq_change {α : Type} {statement : Statement} {part : Outcome → α}
    {change : Except Fault (α × Records)} (hprepare : statement.prepare c.database = .ok ())
    (hidle : statement.isIdle c.database = false) (hpart : statement.part c.database = .main)
    (hrun : (statement.run c.database).map (fun p => (part p.1, p.2)) =
      change.map fun p => (p.1, p.2.database)) :
    execute statement part c = c.change change := by
  -- the right to write is looked at before the statement is run
  simp only [execute, Connection.execute, hprepare, hidle, hpart, Connection.change]
  cases c.writeFault? .main with
  | some fault => rfl
  | none =>
    cases hstatement : statement.run c.database with
    | error fault =>
      cases hchange : change with
      | ok p => rw [hstatement, hchange] at hrun; cases hrun
      | error fault' =>
        rw [hstatement, hchange] at hrun
        cases hrun
        cases fault <;> rfl
    | ok p =>
      cases hchange : change with
      | error fault => rw [hstatement, hchange] at hrun; cases hrun
      | ok p' =>
        rw [hstatement, hchange] at hrun
        simp only [Except.map, Except.ok.injEq, Prod.mk.injEq] at hrun
        obtain ⟨hanswer, hdatabase⟩ := hrun
        simp [Except.map, Except.mapError, hanswer, hdatabase]

namespace Records

/-! ## Changes of records that may be refused -/

/-- Add an organization if its table lets it in. -/
def insertOrganization (r : Records) (o : NewOrganization) :
    Except Fault (OrganizationId × Records) :=
  if r.lastOrganization = Int64.maxValue then .error .full
  else
    match (o.stored (r.lastOrganization + 1)).fault? r.organizations with
    | some fault => .error fault
    | none => .ok (r.lastOrganization + 1, r.addOrganization o)

/-- Add a sector if its table lets it in and its owner is stored. -/
def insertSector (r : Records) (s : NewSector) : Except Fault (SectorId × Records) :=
  if r.lastSector = Int64.maxValue then .error .full
  else
    match (s.stored (r.lastSector + 1)).fault? r.sectors with
    | some fault => .error fault
    | none =>
      if r.organizations.any fun o => o.id == s.org then .ok (r.lastSector + 1, r.addSector s)
      else .error .foreignKey

/-- Give an organization another label unless another one has it; the count is of what changed. -/
def renameOrganization (r : Records) (tenant : TenantId) (code label : String) :
    Except Fault (Nat × Records) :=
  match r.organization? tenant code with
  | none => .ok (0, r)
  | some _ =>
    if r.organizations.any fun o =>
        !(o.tenant == tenant && o.code == code) && (tenant == o.tenant && label == o.label) then
      .error (.notUnique Schema.organizationLabelDetail)
    else .ok (1, r.relabelOrganization tenant code label)

/-- Give a sector another label unless another one has it; the count is of what changed. -/
def renameSector (r : Records) (tenant : TenantId) (id : SectorId) (label : String) :
    Except Fault (Nat × Records) :=
  match r.sector? tenant id with
  | none => .ok (0, r)
  | some _ =>
    if r.sectors.any fun s =>
        !(s.tenant == tenant && s.id == id) && (tenant == s.tenant && label == s.label) then
      .error (.notUnique Schema.sectorLabelDetail)
    else .ok (1, r.relabelSector tenant id label)

/-- Delete an organization unless a sector is left without its owner; the count is of what went. -/
def deleteOrganization (r : Records) (tenant : TenantId) (code : String) :
    Except Fault (Nat × Records) :=
  if (r.removeOrganization tenant code).hasOwners then
    .ok (r.organizations.countP fun o => o.tenant == tenant && o.code == code,
      r.removeOrganization tenant code)
  else .error .foreignKey

/-- Delete the sectors that `gone` picks; the count is of them. -/
def deleteSectors (r : Records) (gone : Sector → Bool) : Except Fault (Nat × Records) :=
  .ok (r.sectors.countP gone, r.removeSectors gone)

theorem insertOrganization_eq_ok {o : NewOrganization} {id : OrganizationId} {r' : Records}
    (h : r.insertOrganization o = .ok (id, r')) :
    r.lastOrganization ≠ Int64.maxValue ∧
      (o.stored (r.lastOrganization + 1)).fault? r.organizations = none ∧
      id = r.lastOrganization + 1 ∧ r' = r.addOrganization o := by
  rw [insertOrganization] at h
  split at h
  · cases h
  · rename_i hmax
    split at h
    · cases h
    · rename_i hfault
      cases h
      exact ⟨hmax, hfault, rfl, rfl⟩

theorem insertSector_eq_ok {s : NewSector} {id : SectorId} {r' : Records}
    (h : r.insertSector s = .ok (id, r')) :
    r.lastSector ≠ Int64.maxValue ∧ (s.stored (r.lastSector + 1)).fault? r.sectors = none ∧
      (∃ o ∈ r.organizations, o.id = s.org) ∧ id = r.lastSector + 1 ∧ r' = r.addSector s := by
  rw [insertSector] at h
  split at h
  · cases h
  · rename_i hmax
    split at h
    · cases h
    · rename_i hfault
      split at h
      · rename_i howner
        cases h
        exact ⟨hmax, hfault, by simpa using howner, rfl, rfl⟩
      · cases h

theorem Sound.insertOrganization (hr : r.Sound) {o : NewOrganization} {id : OrganizationId}
    {r' : Records} (h : r.insertOrganization o = .ok (id, r')) : r'.Sound := by
  obtain ⟨hmax, hfault, -, rfl⟩ := insertOrganization_eq_ok h
  obtain ⟨hlabel, hcode⟩ := Organization.fault?_eq_none _ hfault
  exact hr.addOrganization hmax hcode hlabel

theorem Sound.insertSector (hr : r.Sound) {s : NewSector} {id : SectorId} {r' : Records}
    (h : r.insertSector s = .ok (id, r')) : r'.Sound := by
  obtain ⟨hmax, hfault, howned, -, rfl⟩ := insertSector_eq_ok h
  obtain ⟨hshaped, hlabel, hcode⟩ := Sector.fault?_eq_none _ hfault
  exact hr.addSector hmax hcode hlabel howned hshaped

theorem renameOrganization_eq_ok {tenant : TenantId} {code label : String} {o : Organization}
    {count : Nat} {r' : Records} (ho : r.organization? tenant code = some o)
    (h : r.renameOrganization tenant code label = .ok (count, r')) :
    (∀ x ∈ r.organizations, x.tenant = tenant → x.label = label → x.code = code) ∧ count = 1 ∧
      r' = r.relabelOrganization tenant code label := by
  simp only [renameOrganization, ho] at h
  split at h
  · cases h
  · rename_i hclash
    cases h
    refine ⟨fun x hx htenant hlabel => ?_, rfl, rfl⟩
    by_contra hcode
    exact hclash (List.any_eq_true.mpr ⟨x, hx, by simp [htenant, hlabel, hcode]⟩)

theorem renameSector_eq_ok {tenant : TenantId} {id : SectorId} {label : String} {s : Sector}
    {count : Nat} {r' : Records} (hs : r.sector? tenant id = some s)
    (h : r.renameSector tenant id label = .ok (count, r')) :
    (∀ x ∈ r.sectors, x.tenant = tenant → x.label = label → x.id = id) ∧ count = 1 ∧
      r' = r.relabelSector tenant id label := by
  simp only [renameSector, hs] at h
  split at h
  · cases h
  · rename_i hclash
    cases h
    refine ⟨fun x hx htenant hlabel => ?_, rfl, rfl⟩
    by_contra hid
    exact hclash (List.any_eq_true.mpr ⟨x, hx, by simp [htenant, hlabel, hid]⟩)

theorem deleteOrganization_eq_ok {tenant : TenantId} {code : String} {count : Nat} {r' : Records}
    (h : r.deleteOrganization tenant code = .ok (count, r')) :
    (r.removeOrganization tenant code).hasOwners = true ∧
      r' = r.removeOrganization tenant code := by
  rw [deleteOrganization] at h
  split at h
  · rename_i howners
    cases h
    exact ⟨howners, rfl⟩
  · cases h

theorem Sound.renameOrganization (hr : r.Sound) {tenant : TenantId} {code label : String}
    {count : Nat} {r' : Records} (h : r.renameOrganization tenant code label = .ok (count, r')) :
    r'.Sound := by
  cases ho : r.organization? tenant code with
  | none =>
    rw [Records.renameOrganization, ho] at h
    cases h
    exact hr
  | some o =>
    obtain ⟨hfree, -, rfl⟩ := renameOrganization_eq_ok ho h
    exact hr.relabelOrganization hfree

theorem Sound.renameSector (hr : r.Sound) {tenant : TenantId} {id : SectorId} {label : String}
    {count : Nat} {r' : Records} (h : r.renameSector tenant id label = .ok (count, r')) :
    r'.Sound := by
  cases hs : r.sector? tenant id with
  | none =>
    rw [Records.renameSector, hs] at h
    cases h
    exact hr
  | some s =>
    obtain ⟨hfree, -, rfl⟩ := renameSector_eq_ok hs h
    exact hr.relabelSector hfree

theorem Sound.deleteOrganization (hr : r.Sound) {tenant : TenantId} {code : String} {count : Nat}
    {r' : Records} (h : r.deleteOrganization tenant code = .ok (count, r')) : r'.Sound := by
  obtain ⟨howners, rfl⟩ := deleteOrganization_eq_ok h
  refine hr.removeOrganization fun o ho htenant hcode s hs horg => ?_
  have howned := List.all_eq_true.mp howners s hs
  simp only [List.any_eq_true, beq_iff_eq] at howned
  obtain ⟨owner, howner, hid⟩ := howned
  obtain ⟨hmem, hkept⟩ := List.mem_filter.mp howner
  -- the owner of a sector is stored afterwards, and so is not the organization that goes
  have hsame : owner = o :=
    distinctBy_number hr.organizations_increasing owner hmem o ho (hid.trans horg)
  simp [hsame, htenant, hcode] at hkept

/-! ## The same changes of the tables -/

theorem organizationTable_topId (hr : r.Sound) :
    r.organizationTable.topId = r.lastOrganization := by
  refine Table.topId_eq_lastId rfl ?_
  exact List.forall_mem_map.mpr fun o ho => (hr.organizations_le o ho).2

theorem sectorTable_topId (hr : r.Sound) : r.sectorTable.topId = r.lastSector := by
  refine Table.topId_eq_lastId rfl ?_
  exact List.forall_mem_map.mpr fun s hs => (hr.sectors_le s hs).2

theorem insertRow_organizationTable (hr : r.Sound) (o : NewOrganization) :
    r.organizationTable.insertRow o.cells =
      (r.insertOrganization o).map fun p => (p.1, p.2.organizationTable) := by
  have hgiven : r.organizationTable.givenNumber? o.cells = none := by
    simp [Table.givenNumber?, NewOrganization.cells]
  have hcells : (o.stored (r.lastOrganization + 1)).row.cells =
      r.organizationTable.newCells o.cells := by
    simp only [Table.newCells, organizationTable_definition]
    simp [Schema.organizations, NewOrganization.cells, Text.sameName, Text.foldName,
      Organization.row, NewOrganization.stored]
  have hrow : (o.stored (r.lastOrganization + 1)).row =
      { id := r.organizationTable.lastId + 1, cells := r.organizationTable.newCells o.cells } :=
    congrArg (Row.mk (r.lastOrganization + 1)) hcells
  rw [Table.insertRow_eq hgiven (organizationTable_topId hr) hrow, insertOrganization,
    organizationTable_definition, organizationTable_rows, Organization.rowFault?_new]
  have hlast : r.organizationTable.lastId = r.lastOrganization := rfl
  rw [hlast]
  split
  · rfl
  · cases (o.stored (r.lastOrganization + 1)).fault? r.organizations with
    | some fault => rfl
    | none => simp [Except.map, addOrganization, organizationTable]

theorem insertRow_sectorTable (hr : r.Sound) (s : NewSector) :
    r.sectorTable.insertRow s.cells =
      if r.lastSector = Int64.maxValue then .error .full
      else
        match (s.stored (r.lastSector + 1)).fault? r.sectors with
        | some fault => .error fault
        | none => .ok (r.lastSector + 1, (r.addSector s).sectorTable) := by
  have hgiven : r.sectorTable.givenNumber? s.cells = none := by
    simp [Table.givenNumber?, NewSector.cells]
  have hcells : (s.stored (r.lastSector + 1)).row.cells = r.sectorTable.newCells s.cells := by
    simp only [Table.newCells, sectorTable_definition]
    simp [Schema.sectors, NewSector.cells, Text.sameName, Text.foldName, Sector.row,
      NewSector.stored]
  have hrow : (s.stored (r.lastSector + 1)).row =
      { id := r.sectorTable.lastId + 1, cells := r.sectorTable.newCells s.cells } :=
    congrArg (Row.mk (r.lastSector + 1)) hcells
  rw [Table.insertRow_eq hgiven (sectorTable_topId hr) hrow, sectorTable_definition,
    sectorTable_rows, Sector.rowFault?_new]
  have hlast : r.sectorTable.lastId = r.lastSector := rfl
  rw [hlast]
  split
  · rfl
  · cases (s.stored (r.lastSector + 1)).fault? r.sectors with
    | some fault => rfl
    | none => simp [addSector, sectorTable]

theorem setCell_organizationTable (label : String) (o : Organization) :
    r.organizationTable.setCell "label" (.text label) o.row =
      ({ o with label } : Organization).row := by
  simp only [Table.setCell, organizationTable_definition]
  simp [Schema.organizations, Text.sameName, Text.foldName, Organization.row]

theorem setCell_sectorTable (label : String) (s : Sector) :
    r.sectorTable.setCell "label" (.text label) s.row = ({ s with label } : Sector).row := by
  simp only [Table.setCell, sectorTable_definition]
  simp [Schema.sectors, Text.sameName, Text.foldName, Sector.row]

theorem update_organizationTable (hr : r.Sound) (tenant : TenantId) (code label : String) :
    r.organizationTable.update true "label" (.text label) (textOf tenant "code" code) =
      (r.renameOrganization tenant code label).map fun p => (p.1, p.2.organizationTable) := by
  have hrow (others : List Organization) (o : Organization) :
      r.organizationTable.updateRow true "label" (.text label) (others.map Organization.row) o.row =
        if others.any fun x => o.tenant == x.tenant && label == x.label then
          .error (.notUnique Schema.organizationLabelDetail)
        else .ok ({ o with label } : Organization).row := by
    simp only [Table.updateRow, organizationTable_definition, Schema.organizations_isNumber,
      setCell_organizationTable, pure, Except.pure, bind, Except.bind,
      Organization.rowFault?_label, if_neg Bool.false_ne_true]
    cases others.any fun x => o.tenant == x.tenant && label == x.label <;> rfl
  have hone : ∀ a ∈ r.organizations, ∀ b ∈ r.organizations,
      (a.tenant == tenant && a.code == code) = true →
      (b.tenant == tenant && b.code == code) = true → a = b := by
    intro a ha b hb hma hmb
    simp only [Bool.and_eq_true, beq_iff_eq] at hma hmb
    exact hr.organization_codes a ha b hb (by simp [hma, hmb])
  have hnodup := (nodup_numbers hr.organizations_increasing).of_map
  rw [Table.update_eq (fun o => { o with label })
      (fun o x => o.tenant == x.tenant && o.label == x.label) rfl
      (fun o => o.meets_code tenant r code) (by simp) hrow hnodup hone, renameOrganization]
  rw [organization?]
  cases hfind : r.organizations.find? fun o => o.tenant == tenant && o.code == code with
  | none => rfl
  | some o =>
    have ho := List.find?_some hfind
    simp only [Bool.and_eq_true, beq_iff_eq] at ho
    simp only [ho.1]
    split
    · rfl
    · simp [Except.map, relabelOrganization, organizationTable]

theorem update_sectorTable (hr : r.Sound) (tenant : TenantId) (id : SectorId) (label : String) :
    r.sectorTable.update true "label" (.text label) (numberOf tenant "id" id) =
      (r.renameSector tenant id label).map fun p => (p.1, p.2.sectorTable) := by
  have hrow (others : List Sector) (s : Sector) :
      r.sectorTable.updateRow true "label" (.text label) (others.map Sector.row) s.row =
        if others.any fun x => s.tenant == x.tenant && label == x.label then
          .error (.notUnique Schema.sectorLabelDetail)
        else .ok ({ s with label } : Sector).row := by
    simp only [Table.updateRow, sectorTable_definition, Schema.sectors_isNumber,
      setCell_sectorTable, pure, Except.pure, bind, Except.bind, Sector.rowFault?_label,
      if_neg Bool.false_ne_true]
    cases others.any fun x => s.tenant == x.tenant && label == x.label <;> rfl
  have hone : ∀ a ∈ r.sectors, ∀ b ∈ r.sectors, (a.tenant == tenant && a.id == id) = true →
      (b.tenant == tenant && b.id == id) = true → a = b := by
    intro a ha b hb hma hmb
    simp only [Bool.and_eq_true, beq_iff_eq] at hma hmb
    exact distinctBy_number hr.sectors_increasing a ha b hb (hma.2.trans hmb.2.symm)
  have hnodup := (nodup_numbers hr.sectors_increasing).of_map
  rw [Table.update_eq (fun s => { s with label })
      (fun s x => s.tenant == x.tenant && s.label == x.label) rfl
      (fun s => s.meets_id tenant r id) (by simp) hrow hnodup hone, renameSector]
  rw [sector?]
  cases hfind : r.sectors.find? fun s => s.tenant == tenant && s.id == id with
  | none => rfl
  | some s =>
    have hs := List.find?_some hfind
    simp only [Bool.and_eq_true, beq_iff_eq] at hs
    simp only [hs.1]
    split
    · rfl
    · simp [Except.map, relabelSector, sectorTable]

/-! ## Which references hold after a change -/

theorem hasOwners_addOrganization (h : r.hasOwners = true) (o : NewOrganization) :
    (r.addOrganization o).hasOwners = true := by
  simp only [hasOwners, List.all_eq_true] at h ⊢
  intro s hs
  rw [addOrganization, List.any_append, h s hs, Bool.true_or]

theorem hasOwners_addSector (h : r.hasOwners = true) (s : NewSector) :
    (r.addSector s).hasOwners = r.organizations.any fun o => o.id == s.org := by
  simp only [hasOwners] at h
  simp [hasOwners, addSector, h, NewSector.stored]

theorem hasOwners_relabelOrganization (h : r.hasOwners = true) (tenant : TenantId)
    (code label : String) : (r.relabelOrganization tenant code label).hasOwners = true := by
  simp only [hasOwners, List.all_eq_true, List.any_eq_true] at h ⊢
  intro s hs
  obtain ⟨o, ho, hid⟩ := h s hs
  refine ⟨_, List.mem_map_of_mem ho, ?_⟩
  split <;> exact hid

theorem hasOwners_relabelSector (h : r.hasOwners = true) (tenant : TenantId) (id : SectorId)
    (label : String) : (r.relabelSector tenant id label).hasOwners = true := by
  simp only [hasOwners, List.all_eq_true] at h ⊢
  refine List.forall_mem_map.mpr fun s hs => ?_
  split <;> exact h s hs

theorem hasOwners_removeSectors (h : r.hasOwners = true) (gone : Sector → Bool) :
    (r.removeSectors gone).hasOwners = true := by
  simp only [hasOwners, List.all_eq_true] at h ⊢
  exact fun s hs => h s (List.mem_of_mem_filter hs)

/-- A changed table of organizations is kept if every sector's owner is stored. -/
theorem keep_organizationTable (r r' : Records) (hsectors : r'.sectorTable = r.sectorTable)
    (outcome : Outcome) :
    Statement.keepIfReferencesHold r.database r'.organizationTable outcome =
      if r'.hasOwners then .ok (outcome, r'.database) else .error .foreignKey := by
  simp only [Statement.keepIfReferencesHold, setTable_organizationTable hsectors,
    organizationTable_definition, referencesHold_database]

/-- A changed table of sectors is kept if every sector's owner is stored. -/
theorem keep_sectorTable (r r' : Records) (horganizations : r'.organizationTable =
    r.organizationTable) (outcome : Outcome) :
    Statement.keepIfReferencesHold r.database r'.sectorTable outcome =
      if r'.hasOwners then .ok (outcome, r'.database) else .error .foreignKey := by
  simp only [Statement.keepIfReferencesHold, setTable_sectorTable horganizations,
    sectorTable_definition, referencesHold_database]

/-! ## The statements of the stores -/

section Prepare

variable {name : String} {t : Table} {known : List String}
  (htable : r.database.table? name = some t)
  (hkey : ∀ concerns asParent, r.database.keyFault? t concerns asParent = none)
  (hknown : ∀ column ∈ known, t.definition.hasColumn column = true)
include htable hkey hknown

theorem prepare_insert {values : List (String × Cell)} (hcolumns : values.map (·.1) ⊆ known) :
    (Statement.insert name values).prepare r.database = .ok () := by
  have hnone : (values.map (·.1)).find? (fun c => !t.definition.hasColumn c) = none := by
    rw [List.find?_eq_none]
    intro column hcolumn
    simp [hknown column (hcolumns hcolumn)]
  simp only [Statement.prepare, Database.find?, htable, hnone, hkey]

theorem prepare_update {column : String} {value : Cell} {condition : Condition}
    {enforceChecks : Bool} (hcolumns : column :: condition.columns ⊆ known) :
    (Statement.update name column value condition enforceChecks).prepare r.database = .ok () := by
  simp only [Statement.prepare, Database.find?, htable, hkey,
    Database.unknownColumn?_eq_none hknown hcolumns]

theorem prepare_delete {condition : Condition} (hcolumns : condition.columns ⊆ known) :
    (Statement.delete name condition).prepare r.database = .ok () := by
  simp only [Statement.prepare, Database.find?, htable, hkey,
    Database.unknownColumn?_eq_none hknown hcolumns]

end Prepare

/-- Both tables stand in the part that is kept. -/
theorem part_organizations (r : Records) :
    ((r.database.find? "organizations").map (·.definition.part)).getD .main = .main := by
  simp only [Database.find?, table?_database]
  rfl

theorem part_sectors (r : Records) :
    ((r.database.find? "sectors").map (·.definition.part)).getD .main = .main := by
  simp only [Database.find?, table?_database]
  rfl

theorem run_insert_organization (hr : r.Sound) (o : NewOrganization) :
    ((Statement.insert "organizations" o.cells).run r.database).map (fun p => (p.1.id, p.2)) =
      (r.insertOrganization o).map fun p => (p.1, p.2.database) := by
  simp only [Statement.run, Database.find?, table?_database, insertRow_organizationTable hr,
    insertOrganization]
  by_cases hmax : r.lastOrganization = Int64.maxValue
  · simp only [hmax, if_true, Except.map]
  · simp only [hmax, if_false]
    cases (o.stored (r.lastOrganization + 1)).fault? r.organizations with
    | some fault => rfl
    | none =>
      simp only [Except.map, keep_organizationTable r (r.addOrganization o) rfl,
        hasOwners_addOrganization hr.hasOwners, if_true]

theorem run_insert_sector (hr : r.Sound) (s : NewSector) :
    ((Statement.insert "sectors" s.cells).run r.database).map (fun p => (p.1.id, p.2)) =
      (r.insertSector s).map fun p => (p.1, p.2.database) := by
  simp only [Statement.run, Database.find?, table?_database, insertRow_sectorTable hr,
    insertSector]
  by_cases hmax : r.lastSector = Int64.maxValue
  · simp only [hmax, if_true, Except.map]
  · simp only [hmax, if_false]
    cases (s.stored (r.lastSector + 1)).fault? r.sectors with
    | some fault => rfl
    | none =>
      -- the reference to the owner is the last thing to be looked at
      simp only [keep_sectorTable r (r.addSector s) rfl,
        hasOwners_addSector hr.hasOwners]
      split <;> rfl

theorem run_rename_organization (hr : r.Sound) (tenant : TenantId) (code label : String) :
    ((Statement.update "organizations" "label" (.text label) (textOf tenant "code" code) true).run
        r.database).map (fun p => (p.1.count, p.2)) =
      (r.renameOrganization tenant code label).map fun p => (p.1, p.2.database) := by
  simp only [Statement.run, Database.find?, table?_database, update_organizationTable hr,
    renameOrganization]
  cases r.organization? tenant code with
  | none =>
    have hkeep := keep_organizationTable r r rfl
    simp only [Except.map, hkeep, hr.hasOwners, if_true]
  | some o =>
    have hkeep := keep_organizationTable r (r.relabelOrganization tenant code label) rfl
    have howners := hasOwners_relabelOrganization hr.hasOwners tenant code label
    cases r.organizations.any fun o =>
        !(o.tenant == tenant && o.code == code) && (tenant == o.tenant && label == o.label) with
    | true => rfl
    | false => simp only [Except.map, Bool.false_eq_true, if_false, hkeep, howners, if_true]

theorem run_rename_sector (hr : r.Sound) (tenant : TenantId) (id : SectorId) (label : String) :
    ((Statement.update "sectors" "label" (.text label) (numberOf tenant "id" id) true).run
        r.database).map (fun p => (p.1.count, p.2)) =
      (r.renameSector tenant id label).map fun p => (p.1, p.2.database) := by
  simp only [Statement.run, Database.find?, table?_database, update_sectorTable hr, renameSector]
  cases r.sector? tenant id with
  | none =>
    have hkeep := keep_sectorTable r r rfl
    simp only [Except.map, hkeep, hr.hasOwners, if_true]
  | some s =>
    have hkeep := keep_sectorTable r (r.relabelSector tenant id label) rfl
    have howners := hasOwners_relabelSector hr.hasOwners tenant id label
    cases r.sectors.any fun s =>
        !(s.tenant == tenant && s.id == id) && (tenant == s.tenant && label == s.label) with
    | true => rfl
    | false => simp only [Except.map, Bool.false_eq_true, if_false, hkeep, howners, if_true]

theorem run_delete_organization (tenant : TenantId) (code : String) :
    ((Statement.delete "organizations" (textOf tenant "code" code)).run r.database).map
        (fun p => (p.1.count, p.2)) =
      (r.deleteOrganization tenant code).map fun p => (p.1, p.2.database) := by
  have hmeets : r.organizationTable.meets (textOf tenant "code" code) ∘ Organization.row =
      fun o => o.tenant == tenant && o.code == code :=
    funext fun o => o.meets_code tenant r code
  have hrows : (r.organizationTable.rows.filter fun row =>
      !r.organizationTable.meets (textOf tenant "code" code) row) =
        (r.removeOrganization tenant code).organizations.map Organization.row := by
    rw [organizationTable_rows, List.filter_map, removeOrganization]
    congr 2
    funext o
    simp [Organization.meets_code, beq_eq_decide]
  have htable : (r.organizationTable.delete (textOf tenant "code" code)).2 =
      (r.removeOrganization tenant code).organizationTable := by
    rw [Table.delete, hrows]
    rfl
  simp only [Statement.run, Database.find?, table?_database, htable,
    keep_organizationTable r (r.removeOrganization tenant code) rfl,
    deleteOrganization]
  split
  · simp only [Except.map, Table.delete, organizationTable_rows, List.countP_map, hmeets]
  · rfl

theorem run_delete_sectors (hr : r.Sound) {condition : Condition} {gone : Sector → Bool}
    (hmeets : ∀ s, r.sectorTable.meets condition s.row = gone s) :
    ((Statement.delete "sectors" condition).run r.database).map (fun p => (p.1.count, p.2)) =
      (r.deleteSectors gone).map fun p => (p.1, p.2.database) := by
  have hcomp : r.sectorTable.meets condition ∘ Sector.row = gone := funext hmeets
  have hrows : (r.sectorTable.rows.filter fun row => !r.sectorTable.meets condition row) =
      (r.removeSectors gone).sectors.map Sector.row := by
    rw [sectorTable_rows, List.filter_map, removeSectors]
    congr 2
    exact funext fun s => congrArg not (hmeets s)
  have htable : (r.sectorTable.delete condition).2 = (r.removeSectors gone).sectorTable := by
    rw [Table.delete, hrows]
    rfl
  simp only [Statement.run, Database.find?, table?_database, htable,
    keep_sectorTable r (r.removeSectors gone) rfl,
    hasOwners_removeSectors hr.hasOwners, if_true]
  simp only [Except.map, Table.delete, sectorTable_rows, List.countP_map, hcomp, deleteSectors]

end Records

/-! ## The answers -/

namespace OrganizationRequest

variable (hc : c.database = r.database) (hr : r.Sound)
include hc hr

theorem answer_create (o : NewOrganization) :
    (create o).answer c = c.change (r.insertOrganization o) := by
  refine StoreAction.execute_eq_change ?_ rfl ?_ ?_ <;> rw [hc]
  · refine Records.prepare_insert r.table?_database.1 r.keyFault?_organizationTable
      Schema.hasColumn_organizations ?_
    simp [NewOrganization.cells, Schema.organizationColumns]
  · exact r.part_organizations
  · exact Records.run_insert_organization hr o

theorem answer_createInTransaction (o : NewOrganization) :
    (createInTransaction o).answer c = c.change (r.insertOrganization o) :=
  answer_create hc hr o

theorem answer_rename (tenant : TenantId) (code label : String) :
    (rename tenant code label).answer c = c.change (r.renameOrganization tenant code label) := by
  refine StoreAction.execute_eq_change ?_ rfl ?_ ?_ <;> rw [hc]
  · refine Records.prepare_update r.table?_database.1 r.keyFault?_organizationTable
      Schema.hasColumn_organizations ?_
    simp [textOf, Condition.columns, Schema.organizationColumns]
  · exact r.part_organizations
  · exact Records.run_rename_organization hr tenant code label

omit hr in
theorem answer_deleteInTransaction (tenant : TenantId) (code : String) :
    (deleteInTransaction tenant code).answer c = c.change (r.deleteOrganization tenant code) := by
  refine StoreAction.execute_eq_change ?_ rfl ?_ ?_ <;> rw [hc]
  · refine Records.prepare_delete r.table?_database.1 r.keyFault?_organizationTable
      Schema.hasColumn_organizations ?_
    simp [textOf, Condition.columns, Schema.organizationColumns]
  · exact r.part_organizations
  · exact Records.run_delete_organization tenant code

end OrganizationRequest

namespace SectorRequest

variable (hc : c.database = r.database) (hr : r.Sound)
include hc hr

theorem answer_create (s : NewSector) :
    (create s).answer c = c.change (r.insertSector s) := by
  refine StoreAction.execute_eq_change ?_ rfl ?_ ?_ <;> rw [hc]
  · refine Records.prepare_insert r.table?_database.2 r.keyFault?_sectorTable
      Schema.hasColumn_sectors ?_
    simp [NewSector.cells, Schema.sectorColumns]
  · exact r.part_sectors
  · exact Records.run_insert_sector hr s

theorem answer_createInTransaction (s : NewSector) :
    (createInTransaction s).answer c = c.change (r.insertSector s) :=
  answer_create hc hr s

theorem answer_rename (tenant : TenantId) (id : SectorId) (label : String) :
    (rename tenant id label).answer c = c.change (r.renameSector tenant id label) := by
  refine StoreAction.execute_eq_change ?_ rfl ?_ ?_ <;> rw [hc]
  · refine Records.prepare_update r.table?_database.2 r.keyFault?_sectorTable
      Schema.hasColumn_sectors ?_
    simp [numberOf, Condition.columns, Schema.sectorColumns]
  · exact r.part_sectors
  · exact Records.run_rename_sector hr tenant id label

theorem answer_delete (tenant : TenantId) (id : SectorId) :
    (delete tenant id).answer c = c.change (r.deleteSectors (Records.goesWith tenant id)) := by
  refine StoreAction.execute_eq_change ?_ rfl ?_ ?_ <;> rw [hc]
  · refine Records.prepare_delete r.table?_database.2 r.keyFault?_sectorTable
      Schema.hasColumn_sectors ?_
    simp [Condition.columns, Schema.sectorColumns]
  · exact r.part_sectors
  · exact Records.run_delete_sectors hr fun s => s.meets_gone tenant r id

theorem answer_deleteAllForOrganization (org : OrganizationId) :
    (deleteAllForOrganization org).answer c =
      c.change (r.deleteSectors fun s => s.org == org) := by
  refine StoreAction.execute_eq_change ?_ rfl ?_ ?_ <;> rw [hc]
  · refine Records.prepare_delete r.table?_database.2 r.keyFault?_sectorTable
      Schema.hasColumn_sectors ?_
    simp [Condition.columns, Schema.sectorColumns]
  · exact r.part_sectors
  · exact Records.run_delete_sectors hr fun s => s.meets_owner r org

theorem answer_deleteAllForOrganizationInTransaction (org : OrganizationId) :
    (deleteAllForOrganizationInTransaction org).answer c =
      c.change (r.deleteSectors fun s => s.org == org) :=
  answer_deleteAllForOrganization hc hr org

end SectorRequest

end SectorForest
