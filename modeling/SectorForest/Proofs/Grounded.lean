import SectorForest.Proofs.Serving

/-!
# What the stores keep, whoever asks them

A connection is grounded if its database holds sound records, and the one that an open transaction
returns to does, too. Opening and closing transactions keeps a connection grounded, and so does
every request, whatever it asks for and in whichever order requests come. So every look-up is
answered as the records have it: `OrganizationRequest.Finds.answer_eq` and
`SectorRequest.Finds.answer_eq`.
-/

namespace SectorForest

open Storage

variable {α : Type}

/-- The database holds sound records. -/
def Storage.Database.Sound (db : Database) : Prop :=
  ∃ r : Records, r.Sound ∧ db = r.database

theorem Storage.Database.Sound.records {db : Database} (h : db.Sound) :
    db.records.Sound ∧ db = db.records.database := by
  obtain ⟨r, hr, rfl⟩ := h
  rw [Records.records_database hr.readable]
  exact ⟨hr, rfl⟩

/-! ## Connections -/

namespace Storage.Connection

/-- The database holds sound records, also if the open transaction is undone. -/
structure Grounded (c : Connection) : Prop where
  database : c.database.Sound
  saved : ∀ db, c.saved = some db → db.Sound

variable {c : Connection}

theorem Grounded.undone (h : c.Grounded) : c.undone.Grounded where
  database := by
    show (c.saved.getD c.database).Sound
    cases hsaved : c.saved with
    | none => exact h.database
    | some db => exact h.saved db hsaved
  saved := by
    rintro db ⟨⟩

theorem Grounded.transact (h : c.Grounded) (step : TransactionStep) :
    (transact step c).2.Grounded := by
  cases step with
  | start =>
    simp only [Connection.transact, beginImmediate]
    split
    · exact h
    · split
      · exact h
      · exact ⟨h.database, fun db hsaved => Option.some.inj hsaved ▸ h.database⟩
  | commit =>
    simp only [Connection.transact, commit]
    split
    · exact ⟨h.database, by rintro db ⟨⟩⟩
    · exact h
  | rollback =>
    simp only [Connection.transact, rollback]
    split
    · exact h.undone
    · exact h
  | abandon => exact h.undone

theorem Grounded.change (h : c.Grounded) {change : Except Fault (α × Records)}
    (hsound : ∀ a r, change = .ok (a, r) → r.Sound) : (c.change change).2.Grounded := by
  unfold Connection.change
  cases c.writeFault? .main with
  | some fault => exact h
  | none =>
    cases change with
    | ok p => exact ⟨⟨p.2, hsound p.1 p.2 rfl, rfl⟩, h.saved⟩
    | error fault =>
      cases fault with
      | full => exact h.undone
      | _ => exact h

/-- Opening and closing transactions touches the database and the open transaction only. -/
theorem transact_frame (step : TransactionStep) :
    ∃ database saved, (transact step c).2 = { c with database, saved } := by
  cases step with
  | start =>
    simp only [Connection.transact, beginImmediate]
    split_ifs
    · exact ⟨c.database, c.saved, rfl⟩
    · exact ⟨c.database, c.saved, rfl⟩
    · exact ⟨c.database, some c.database, rfl⟩
  | commit =>
    simp only [Connection.transact, commit]
    split
    · exact ⟨c.database, none, rfl⟩
    · exact ⟨c.database, c.saved, rfl⟩
  | rollback =>
    simp only [Connection.transact, rollback]
    split
    · exact ⟨c.saved.getD c.database, none, rfl⟩
    · exact ⟨c.database, c.saved, rfl⟩
  | abandon => exact ⟨c.saved.getD c.database, none, rfl⟩

/-- So does a change of records. -/
theorem change_frame (change : Except Fault (α × Records)) :
    ∃ database saved, (c.change change).2 = { c with database, saved } := by
  unfold Connection.change
  cases c.writeFault? .main with
  | some fault => exact ⟨c.database, c.saved, rfl⟩
  | none =>
    cases change with
    | ok p => exact ⟨p.2.database, c.saved, rfl⟩
    | error fault =>
      cases fault with
      | full => exact ⟨c.saved.getD c.database, none, rfl⟩
      | _ => exact ⟨c.database, c.saved, rfl⟩

end Storage.Connection

/-! ## Requests -/

variable {c : Connection}

namespace OrganizationRequest

/-- The requests that look organizations of a tenant up, and what they find among records. -/
inductive Finds : {α : Type} → OrganizationRequest α → TenantId → (Records → α) → Prop
  | findByCode (tenant : TenantId) (code : String) :
    Finds (.findByCode tenant code) tenant fun r => r.organization? tenant code
  | findAll (tenant : TenantId) : Finds (.findAll tenant) tenant fun r => r.organizationsOf tenant
  | existsByCode (tenant : TenantId) (code : String) :
    Finds (.existsByCode tenant code) tenant fun r => r.hasOrganizationCode tenant code
  | existsByLabel (tenant : TenantId) (label : String) :
    Finds (.existsByLabel tenant label) tenant fun r => r.hasOrganizationLabel tenant label

/-- A look-up is answered, and leaves the connection alone. -/
theorem Finds.answer_eq {request : OrganizationRequest α} {tenant : TenantId} {view : Records → α}
    (h : Finds request tenant view) {r : Records} (hc : c.database = r.database) :
    request.answer c = (.ok (view r), c) := by
  cases h with
  | findByCode _ code => exact answer_findByCode hc tenant code
  | findAll => exact answer_findAll hc tenant
  | existsByCode _ code => exact answer_existsByCode hc tenant code
  | existsByLabel _ label => exact answer_existsByLabel hc tenant label

/-- Every request keeps a connection grounded. -/
theorem answer_grounded (request : OrganizationRequest α) (h : c.Grounded) :
    (request.answer c).2.Grounded := by
  obtain ⟨r, hr, hc⟩ := h.database
  cases request with
  | create o =>
    rw [answer_create hc hr]
    exact h.change fun _ _ hchange => hr.insertOrganization hchange
  | createInTransaction o =>
    rw [answer_createInTransaction hc hr]
    exact h.change fun _ _ hchange => hr.insertOrganization hchange
  | rename tenant code label =>
    rw [answer_rename hc hr]
    exact h.change fun _ _ hchange => hr.renameOrganization hchange
  | deleteInTransaction tenant code =>
    rw [answer_deleteInTransaction hc]
    exact h.change fun _ _ hchange => hr.deleteOrganization hchange
  | findByCode tenant code => exact h
  | findAll tenant => exact h
  | existsByCode tenant code => exact h
  | existsByLabel tenant label => exact h

end OrganizationRequest

namespace SectorRequest

/-- The requests that look sectors of a tenant up, and what they find among records. -/
inductive Finds : {α : Type} → SectorRequest α → TenantId → (Records → α) → Prop
  | findByCode (tenant : TenantId) (code : String) :
    Finds (.findByCode tenant code) tenant fun r => r.sectorByCode? tenant code
  | findById (tenant : TenantId) (id : SectorId) :
    Finds (.findById tenant id) tenant fun r => r.sector? tenant id
  | findByLabel (tenant : TenantId) (label : String) :
    Finds (.findByLabel tenant label) tenant fun r =>
      (r.sectorByLabel? tenant label).map fun s => { id := s.id, code := s.code }
  | findRoot (tenant : TenantId) (org : OrganizationId) :
    Finds (.findRoot tenant org) tenant fun r => r.root? tenant org
  | findAllForOrganization (tenant : TenantId) (org : OrganizationId) :
    Finds (.findAllForOrganization tenant org) tenant fun r => r.sectorsOf tenant org

/-- A look-up is answered, and leaves the connection alone. -/
theorem Finds.answer_eq {request : SectorRequest α} {tenant : TenantId} {view : Records → α}
    (h : Finds request tenant view) {r : Records} (hc : c.database = r.database) (hr : r.Sound) :
    request.answer c = (.ok (view r), c) := by
  have hreadable := hr.readable
  cases h with
  | findByCode _ code => exact answer_findByCode hc hreadable tenant code
  | findById _ id => exact answer_findById hc hreadable tenant id
  | findByLabel _ label => exact answer_findByLabel hc tenant label
  | findRoot _ org => exact answer_findRoot hc hreadable tenant org
  | findAllForOrganization _ org => exact answer_findAllForOrganization hc hreadable tenant org

/-- Every request keeps a connection grounded. -/
theorem answer_grounded (request : SectorRequest α) (h : c.Grounded) :
    (request.answer c).2.Grounded := by
  obtain ⟨r, hr, hc⟩ := h.database
  have hremoved (gone : Sector → Bool) (count : Nat) (r' : Records)
      (hchange : r.deleteSectors gone = .ok (count, r')) : r'.Sound := by
    cases hchange
    exact hr.removeSectors gone
  cases request with
  | create s =>
    rw [answer_create hc hr]
    exact h.change fun _ _ hchange => hr.insertSector hchange
  | createInTransaction s =>
    rw [answer_createInTransaction hc hr]
    exact h.change fun _ _ hchange => hr.insertSector hchange
  | rename tenant id label =>
    rw [answer_rename hc hr]
    exact h.change fun _ _ hchange => hr.renameSector hchange
  | delete tenant id =>
    rw [answer_delete hc hr]
    exact h.change (hremoved _)
  | deleteAllForOrganization org =>
    rw [answer_deleteAllForOrganization hc hr]
    exact h.change (hremoved _)
  | deleteAllForOrganizationInTransaction org =>
    rw [answer_deleteAllForOrganizationInTransaction hc hr]
    exact h.change (hremoved _)
  | findByCode tenant code => exact h
  | findById tenant id => exact h
  | findByLabel tenant label => exact h
  | findRoot tenant org => exact h
  | findAllForOrganization tenant org => exact h

end SectorRequest

end SectorForest
