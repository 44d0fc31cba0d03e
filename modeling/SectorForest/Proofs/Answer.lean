import SectorForest.Proofs.Rows

/-!
# What the stores answer

The queries of the stores, answered over the records behind a connection's database: each gives the
records that it asks for and leaves the connection alone, whatever the state of a transaction.
-/

namespace SectorForest

open Storage

variable {c : Connection} {r : Records}

theorem Schema.hasColumn_organizations :
    ∀ column ∈ organizationColumns, organizations.hasColumn column = true := by
  decide

theorem Schema.hasColumn_sectors : ∀ column ∈ sectorColumns, sectors.hasColumn column = true := by
  decide

/-- A table whose columns are all known has no unknown ones among some of them. -/
theorem Storage.Database.unknownColumn?_eq_none {t : Table} {known columns : List String}
    (hknown : ∀ column ∈ known, t.definition.hasColumn column = true) (hcolumns : columns ⊆ known) :
    Database.unknownColumn? t columns = none := by
  simp only [unknownColumn?, Option.map_eq_none_iff, List.find?_eq_none]
  intro column hcolumn
  simp [hknown column (hcolumns hcolumn)]

namespace StoreAction

/-- What a query lists of the sectors that meet its condition. -/
theorem rows_sectors (hc : c.database = r.database) (columns : List String)
    (orderBy : Option String) {condition : Condition} {meets : Sector → Bool}
    (hmeets : ∀ s, r.sectorTable.meets condition s.row = meets s)
    (horder : orderBy = none ∨ orderBy = some "id")
    (hcolumns : columns ++ condition.columns ++ orderBy.toList ⊆ Schema.sectorColumns) :
    rows c "sectors" columns condition orderBy =
      .ok ((r.sectors.filter meets).map fun s => columns.map (Schema.sectors.cell s.row)) := by
  have hknown : Database.unknownColumn? r.sectorTable
      (columns ++ condition.columns ++ orderBy.toList) = none :=
    Database.unknownColumn?_eq_none Schema.hasColumn_sectors hcolumns
  have hfilter : r.sectorTable.rows.filter (r.sectorTable.meets condition) =
      (r.sectors.filter meets).map Sector.row := by
    rw [Records.sectorTable_rows, List.filter_map]
    exact congrArg _ (List.filter_congr fun s _ => hmeets s)
  -- rows stand in the order of their numbers already
  rcases horder with rfl | rfl <;>
    simp only [rows, Connection.select, hc, Records.table?_database, hknown, Table.rowsBy,
      Records.sectorTable_definition, Schema.sectors_isNumber, if_true, hfilter, List.map_map,
      Records.sectorTable_cell, Except.mapError, Function.comp_def]

/-- What a query lists of the organizations that meet its condition. -/
theorem rows_organizations (hc : c.database = r.database) (columns : List String)
    (orderBy : Option String) {condition : Condition} {meets : Organization → Bool}
    (hmeets : ∀ o, r.organizationTable.meets condition o.row = meets o)
    (horder : orderBy = none ∨ orderBy = some "id")
    (hcolumns : columns ++ condition.columns ++ orderBy.toList ⊆ Schema.organizationColumns) :
    rows c "organizations" columns condition orderBy =
      .ok ((r.organizations.filter meets).map fun o =>
        columns.map (Schema.organizations.cell o.row)) := by
  have hknown : Database.unknownColumn? r.organizationTable
      (columns ++ condition.columns ++ orderBy.toList) = none :=
    Database.unknownColumn?_eq_none Schema.hasColumn_organizations hcolumns
  have hfilter : r.organizationTable.rows.filter (r.organizationTable.meets condition) =
      (r.organizations.filter meets).map Organization.row := by
    rw [Records.organizationTable_rows, List.filter_map]
    exact congrArg _ (List.filter_congr fun o _ => hmeets o)
  rcases horder with rfl | rfl <;>
    simp only [rows, Connection.select, hc, Records.table?_database, hknown, Table.rowsBy,
      Records.organizationTable_definition, Schema.organizations_isNumber, if_true, hfilter,
      List.map_map, Records.organizationTable_cell, Except.mapError, Function.comp_def]

/-- The first of some rows that can be read. -/
theorem first_map {α β : Type} {read : List Cell → Except StoreError β} {cells : α → List Cell}
    (value : α → β) {xs : List α} (hread : ∀ x ∈ xs, read (cells x) = .ok (value x)) :
    first read (xs.map cells) = .ok (xs.head?.map value) := by
  cases xs with
  | nil => rfl
  | cons x xs =>
    simp only [List.map_cons, first, hread x List.mem_cons_self, Except.map]
    rfl

/-- Some rows that can all be read. -/
theorem mapM_map {α β : Type} {read : List Cell → Except StoreError β} {cells : α → List Cell}
    (value : α → β) {xs : List α} (hread : ∀ x ∈ xs, read (cells x) = .ok (value x)) :
    (xs.map cells).mapM read = .ok (xs.map value) := by
  induction xs with
  | nil => rfl
  | cons x xs ih =>
    have hrest := ih fun y hy => hread y (List.mem_cons_of_mem x hy)
    rw [List.map_cons, List.mapM_cons, hread x List.mem_cons_self, hrest]
    rfl

/-- The first of the sectors that meet a condition, read from its row. -/
theorem first_sectors (hc : c.database = r.database) (hr : r.Readable) {condition : Condition}
    {orderBy : Option String} {meets : Sector → Bool}
    (hmeets : ∀ s, r.sectorTable.meets condition s.row = meets s)
    (horder : orderBy = none ∨ orderBy = some "id")
    (hcolumns : condition.columns ++ orderBy.toList ⊆ Schema.sectorColumns) :
    (do first Sector.ofCells (← rows c "sectors" Schema.sectorColumns condition orderBy)) =
      .ok (r.sectors.find? meets) := by
  rw [rows_sectors hc _ _ hmeets horder (by
    rw [List.append_assoc]; exact List.append_subset.mpr ⟨List.Subset.refl _, hcolumns⟩)]
  have hread : ∀ s ∈ r.sectors.filter meets,
      Sector.ofCells (Schema.sectorColumns.map (Schema.sectors.cell s.row)) = .ok (id s) :=
    fun s hs => s.ofCells_row (hr s (List.mem_of_mem_filter hs))
  simpa [bind, Except.bind] using first_map id hread

/-- The first of the organizations that meet a condition, read from its row. -/
theorem first_organizations (hc : c.database = r.database) {condition : Condition}
    {meets : Organization → Bool}
    (hmeets : ∀ o, r.organizationTable.meets condition o.row = meets o)
    (hcolumns : condition.columns ⊆ Schema.organizationColumns) :
    (do first Organization.ofCells
          (← rows c "organizations" Schema.organizationColumns condition)) =
      .ok (r.organizations.find? meets) := by
  rw [rows_organizations hc _ _ hmeets (.inl rfl) (by simpa using hcolumns)]
  have hread : ∀ o ∈ r.organizations.filter meets,
      Organization.ofCells (Schema.organizationColumns.map (Schema.organizations.cell o.row)) =
        .ok (id o) :=
    fun o _ => o.ofCells_row
  simpa [bind, Except.bind] using first_map id hread

/-- Whether an organization meets a condition. -/
theorem hasRow_organizations (hc : c.database = r.database) {condition : Condition}
    {meets : Organization → Bool}
    (hmeets : ∀ o, r.organizationTable.meets condition o.row = meets o)
    (hcolumns : condition.columns ⊆ Schema.organizationColumns) :
    (c.hasRow "organizations" condition).mapError StoreError.ofFault =
      .ok (r.organizations.any meets) := by
  have hrows := rows_organizations hc [] none hmeets (.inl rfl) (by simpa using hcolumns)
  have hempty (xs : List Organization) : (!(xs.filter meets).isEmpty) = xs.any meets := by
    induction xs with
    | nil => rfl
    | cons x xs ih => by_cases hx : meets x <;> simp_all
  simp only [rows] at hrows
  simp only [Connection.hasRow]
  cases hselect : c.select "organizations" [] condition with
  | error fault => rw [hselect] at hrows; cases hrows
  | ok found =>
    rw [hselect] at hrows
    cases hrows
    simp only [Except.map, Except.mapError, List.isEmpty_map, hempty]

end StoreAction

namespace SectorRequest

open StoreAction

variable (hc : c.database = r.database) (hr : r.Readable) (tenant : TenantId)
include hc hr

theorem answer_findByCode (code : String) :
    (findByCode tenant code).answer c =
      (.ok (r.sectorByCode? tenant code), c) := by
  simp only [answer, look]
  rw [first_sectors hc hr (fun s => s.meets_code tenant r code) (.inl rfl)
    (by simp [textOf, Condition.columns, Schema.sectorColumns])]
  rfl

theorem answer_findById (id : SectorId) :
    (findById tenant id).answer c =
      (.ok (r.sector? tenant id), c) := by
  simp only [answer, look]
  rw [first_sectors hc hr (fun s => s.meets_id tenant r id) (.inl rfl)
    (by simp [numberOf, Condition.columns, Schema.sectorColumns])]
  rfl

theorem answer_findRoot (org : OrganizationId) :
    (findRoot tenant org).answer c = (.ok (r.root? tenant org), c) := by
  simp only [answer, look]
  rw [first_sectors hc hr (fun s => s.meets_root tenant r org) (.inr rfl)
    (by simp [numberOf, Condition.columns, Schema.sectorColumns])]
  rfl

theorem answer_findAllForOrganization (org : OrganizationId) :
    (findAllForOrganization tenant org).answer c = (.ok (r.sectorsOf tenant org), c) := by
  have hrows := rows_sectors hc Schema.sectorColumns (some "id")
    (fun s => s.meets_org tenant r org) (.inr rfl)
    (by simp [numberOf, Condition.columns, Schema.sectorColumns])
  simp only [answer, look, hrows, bind, Except.bind]
  rw [mapM_map id fun s hs => s.ofCells_row (hr s (List.mem_of_mem_filter hs)),
    List.map_id]
  rfl

omit hr in
theorem answer_findByLabel (label : String) :
    (findByLabel tenant label).answer c =
      (.ok ((r.sectorByLabel? tenant label).map fun s => { id := s.id, code := s.code }), c) := by
  have hrows := rows_sectors hc ["id", "code"] (some "id")
    (fun s => s.meets_label tenant r label) (.inr rfl)
    (by simp [textOf, Condition.columns, Schema.sectorColumns])
  simp only [answer, look, hrows, bind, Except.bind]
  rw [first_map _ fun s _ => LabelOwner.ofCells_row s, List.head?_filter]
  rfl

end SectorRequest

namespace OrganizationRequest

open StoreAction

variable (hc : c.database = r.database) (tenant : TenantId)
include hc

theorem answer_findByCode (code : String) :
    (findByCode tenant code).answer c =
      (.ok (r.organization? tenant code), c) := by
  simp only [answer, look]
  rw [first_organizations hc (fun o => o.meets_code tenant r code)
    (by simp [textOf, Condition.columns, Schema.organizationColumns])]
  rfl

theorem answer_findAll :
    (findAll tenant).answer c = (.ok (r.organizationsOf tenant), c) := by
  have hrows := rows_organizations hc Schema.organizationColumns (some "id")
    (fun o => o.meets_tenant tenant r) (.inr rfl)
    (by simp [Condition.columns, Schema.organizationColumns])
  simp only [answer, look, hrows, bind, Except.bind]
  rw [mapM_map id fun o _ => o.ofCells_row, List.map_id]
  rfl

theorem answer_existsByCode (code : String) :
    (existsByCode tenant code).answer c =
      (.ok (r.hasOrganizationCode tenant code), c) := by
  simp only [answer, look]
  rw [hasRow_organizations hc (fun o => o.meets_code tenant r code)
    (by simp [textOf, Condition.columns, Schema.organizationColumns])]
  rfl

theorem answer_existsByLabel (label : String) :
    (existsByLabel tenant label).answer c =
      (.ok (r.hasOrganizationLabel tenant label), c) := by
  simp only [answer, look]
  rw [hasRow_organizations hc (fun o => o.meets_label tenant r label)
    (by simp [textOf, Condition.columns, Schema.organizationColumns])]
  rfl

end OrganizationRequest

end SectorForest
