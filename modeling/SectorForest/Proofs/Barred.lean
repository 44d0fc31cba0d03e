import SectorForest.Proofs.Perform
import SectorForest.Proofs.Tenancy

/-!
# While nothing can be written

While another client may write, or this one may not, a call looks up what it needs until it is
refused or comes to its first change, which fails. So how it ends is told by what it looks up, all
of which its tenant can see, and by the next code. Over two connections that cannot be written for
the same reason and that show the tenant the same, a call ends the same: `Session.Barred.perform`.

`Session.Alike` relates the two runs of an action. There is one rule for each way of putting actions
together, one for what is looked up and one for a change; no rule is needed for what comes after a
change.
-/

namespace SectorForest

open Storage

variable {α β : Type}

/-- Opening a transaction and closing it again changes nothing. -/
theorem Storage.Connection.closed_idle {c : Connection} (h : c.saved = none) :
    { { c with saved := some c.database } with saved := none } = c := by
  rw [← h]

namespace Session

/-! ## Two runs of one action -/

/-- Run over connections `c` and `c'` with the same codes to come, an action ends the same and
leaves the connections as they are. -/
def Alike (c c' : Connection) (action : Serving (StateM Session) α) : Prop :=
  ∀ s s' : Session, s.connection = c → s'.connection = c' →
    (∀ n, s.codes (s.codesTaken + n) = s'.codes (s'.codesTaken + n)) →
    (s.run action).1 = (s'.run action).1 ∧ (s.run action).2.connection = c ∧
      (s'.run action).2.connection = c'

section Rules

variable {c c' : Connection} {action : Serving (StateM Session) α}
  {next : α → Serving (StateM Session) β}

theorem alike_pure (a : α) : Alike c c' (pure a) :=
  fun _ _ hc hc' _ => ⟨rfl, hc, hc'⟩

theorem alike_throw (failure : Failure) :
    Alike c c' (throw failure : Serving (StateM Session) α) :=
  fun _ _ hc hc' _ => ⟨rfl, hc, hc'⟩

theorem alike_refuse (error : ServiceError) :
    Alike c c' (refuse error : Serving (StateM Session) α) :=
  alike_throw _

theorem Alike.reported (operation : String) (h : Alike c c' action) :
    Alike c c' (backend.reported operation action) := by
  intro s s' hc hc' hcodes
  simp only [run_reported, reporting_fst, reporting_connection]
  exact h s s' hc hc' hcodes

theorem Alike.normalized {field : TextField} {text : String}
    {next : String → Serving (StateM Session) β} (h : ∀ chosen, Alike c c' (next chosen)) :
    Alike c c' (Backend.normalized field text >>= next) := by
  rw [Backend.normalized]
  cases normalize field text with
  | ok chosen => exact h chosen
  | error error => exact alike_refuse error

theorem Alike.found {entity : Entity} {key : String} {value : Option α}
    (h : ∀ a, Alike c c' (next a)) : Alike c c' (Backend.found entity key value >>= next) := by
  cases value with
  | some a => exact h a
  | none => exact alike_refuse _

theorem Alike.unlessTaken {taken : Prop} [Decidable taken] {error : ServiceError}
    {next : Unit → Serving (StateM Session) β} (h : Alike c c' (next ())) :
    Alike c c' (if taken then (do let done ← refuse error; next done) else next ()) := by
  split
  · exact alike_refuse error
  · exact h

theorem Alike.newCode {next : String → Serving (StateM Session) β}
    (h : ∀ code, Alike c c' (next code)) :
    Alike c c' ((backend (m := StateM Session)).newCode >>= next) := by
  intro s s' hc hc' hcodes
  have hnext : s.codes s.codesTaken = s'.codes s'.codesTaken := hcodes 0
  rw [run_bind_ok run_newCode, run_bind_ok run_newCode, hnext]
  refine h _ _ _ hc hc' fun n => ?_
  rw [Nat.add_right_comm, Nat.add_assoc s.codesTaken, hcodes, Nat.add_right_comm, Nat.add_assoc]

/-- What is looked up is the same over both connections. -/
theorem Alike.read {a : α} (h : ∀ s : Session, s.connection = c → s.run action = (.ok a, s))
    (h' : ∀ s : Session, s.connection = c' → s.run action = (.ok a, s))
    (hnext : Alike c c' (next a)) : Alike c c' (action >>= next) := by
  intro s s' hc hc' hcodes
  rw [run_bind_ok (h s hc), run_bind_ok (h' s' hc')]
  exact hnext s s' hc hc' hcodes

/-- What fails at once fails with the same failure over both connections. -/
theorem Alike.stop {failure : Failure}
    (h : ∀ s : Session, s.connection = c → s.run action = (.error failure, s))
    (h' : ∀ s : Session, s.connection = c' → s.run action = (.error failure, s))
    (next : α → Serving (StateM Session) β) : Alike c c' (action >>= next) := by
  intro s s' hc hc' _
  rw [run_bind_error (h s hc), run_bind_error (h' s' hc')]
  exact ⟨rfl, hc, hc'⟩

/-- A transaction that is opened over both connections or over none. -/
theorem Alike.transaction {operation : String} (hidle : c.saved = none) (hidle' : c'.saved = none)
    (hcontended : c.contended = c'.contended)
    (h : Alike { c with saved := some c.database } { c' with saved := some c'.database } action) :
    Alike c c' (backend.transaction operation action) := by
  rintro s s' rfl rfl hcodes
  cases hfree : s.connection.contended with
  | true =>
    rw [run_transaction_contended operation hidle hfree,
      run_transaction_contended operation hidle' (hcontended ▸ hfree)]
    exact ⟨rfl, rfl, rfl⟩
  | false =>
    have hfree' : s'.connection.contended = false := hcontended ▸ hfree
    obtain ⟨hending, hopen, hopen'⟩ := h s.opened s'.opened rfl rfl hcodes
    cases hrun : s.opened.run action with
    | mk result after =>
      cases hrun' : s'.opened.run action with
      | mk result' after' =>
        rw [hrun, hrun'] at hending
        rw [hrun] at hopen
        rw [hrun'] at hopen'
        obtain rfl : result = result' := hending
        cases result with
        | ok a =>
          obtain ⟨hresult, hconnection⟩ :=
            run_transaction_ok operation hidle hfree hrun (by rw [hopen]; rfl)
          obtain ⟨hresult', hconnection'⟩ :=
            run_transaction_ok operation hidle' hfree' hrun' (by rw [hopen']; rfl)
          rw [hresult, hresult', hconnection, hconnection', hopen, hopen']
          exact ⟨rfl, Connection.closed_idle hidle, Connection.closed_idle hidle'⟩
        | error failure =>
          obtain ⟨hresult, hconnection⟩ := run_transaction_error operation hidle hfree hrun
          obtain ⟨hresult', hconnection'⟩ := run_transaction_error operation hidle' hfree' hrun'
          rw [hresult, hresult', hconnection, hconnection', hopen, hopen']
          exact ⟨rfl, Connection.undone_saved hidle _, Connection.undone_saved hidle' _⟩

end Rules

/-! ## What a tenant is shown -/

/-- A connection over which nothing can be written, and what it shows of a tenant. -/
structure Barred (tenant : TenantId) (shown : Records) (fault : Fault) (c : Connection) : Prop where
  shows : ∃ r : Records, c.database = r.database ∧ r.Sound ∧ r.within tenant = shown
  fault_eq : c.writeFault? .main = some fault

namespace Barred

variable {tenant : TenantId} {shown : Records} {fault : Fault} {c : Connection}
  (h : Barred tenant shown fault c)
include h

/-- Opening a transaction shows nothing else. -/
theorem opened : Barred tenant shown fault { c with saved := some c.database } :=
  ⟨h.shows, h.fault_eq⟩

theorem change_eq (change : Except Fault (α × Records)) :
    c.change change = (.error (.ofFault fault), c) := by
  simp only [Connection.change, h.fault_eq]

theorem findOrganization (code : String) :
    (OrganizationRequest.findByCode tenant code).answer c =
      (.ok (shown.organization? tenant code), c) := by
  obtain ⟨r, hdatabase, -, rfl⟩ := h.shows
  rw [Records.within_organization?]
  exact OrganizationRequest.answer_findByCode hdatabase tenant code

theorem hasOrganizationCode (code : String) :
    (OrganizationRequest.existsByCode tenant code).answer c =
      (.ok (shown.hasOrganizationCode tenant code), c) := by
  obtain ⟨r, hdatabase, -, rfl⟩ := h.shows
  rw [Records.within_hasOrganizationCode]
  exact OrganizationRequest.answer_existsByCode hdatabase tenant code

theorem hasOrganizationLabel (label : String) :
    (OrganizationRequest.existsByLabel tenant label).answer c =
      (.ok (shown.hasOrganizationLabel tenant label), c) := by
  obtain ⟨r, hdatabase, -, rfl⟩ := h.shows
  rw [Records.within_hasOrganizationLabel]
  exact OrganizationRequest.answer_existsByLabel hdatabase tenant label

theorem findSector (id : SectorId) :
    (SectorRequest.findById tenant id).answer c = (.ok (shown.sector? tenant id), c) := by
  obtain ⟨r, hdatabase, hr, rfl⟩ := h.shows
  rw [Records.within_sector?]
  exact SectorRequest.answer_findById hdatabase hr.readable tenant id

theorem findSectorByCode (code : String) :
    (SectorRequest.findByCode tenant code).answer c =
      (.ok (shown.sectorByCode? tenant code), c) := by
  obtain ⟨r, hdatabase, hr, rfl⟩ := h.shows
  rw [Records.within_sectorByCode?]
  exact SectorRequest.answer_findByCode hdatabase hr.readable tenant code

theorem findLabelOwner (label : String) :
    (SectorRequest.findByLabel tenant label).answer c =
      (.ok ((shown.sectorByLabel? tenant label).map fun s =>
        { id := s.id, code := s.code }), c) := by
  obtain ⟨r, hdatabase, -, rfl⟩ := h.shows
  rw [Records.within_sectorByLabel?]
  exact SectorRequest.answer_findByLabel hdatabase tenant label

theorem findRoot (org : OrganizationId) :
    (SectorRequest.findRoot tenant org).answer c = (.ok (shown.root? tenant org), c) := by
  obtain ⟨r, hdatabase, hr, rfl⟩ := h.shows
  rw [Records.within_root?]
  exact SectorRequest.answer_findRoot hdatabase hr.readable tenant org

theorem createOrganization (o : NewOrganization) :
    (OrganizationRequest.createInTransaction o).answer c = (.error (.ofFault fault), c) := by
  obtain ⟨r, hdatabase, hr, -⟩ := h.shows
  rw [OrganizationRequest.answer_createInTransaction hdatabase hr, h.change_eq]

theorem renameOrganization (owner : TenantId) (code label : String) :
    (OrganizationRequest.rename owner code label).answer c = (.error (.ofFault fault), c) := by
  obtain ⟨r, hdatabase, hr, -⟩ := h.shows
  rw [OrganizationRequest.answer_rename hdatabase hr, h.change_eq]

theorem createSector (s : NewSector) :
    (SectorRequest.create s).answer c = (.error (.ofFault fault), c) := by
  obtain ⟨r, hdatabase, hr, -⟩ := h.shows
  rw [SectorRequest.answer_create hdatabase hr, h.change_eq]

theorem renameSector (owner : TenantId) (id : SectorId) (label : String) :
    (SectorRequest.rename owner id label).answer c = (.error (.ofFault fault), c) := by
  obtain ⟨r, hdatabase, hr, -⟩ := h.shows
  rw [SectorRequest.answer_rename hdatabase hr, h.change_eq]

theorem deleteSector (owner : TenantId) (id : SectorId) :
    (SectorRequest.delete owner id).answer c = (.error (.ofFault fault), c) := by
  obtain ⟨r, hdatabase, hr, -⟩ := h.shows
  rw [SectorRequest.answer_delete hdatabase hr, h.change_eq]

theorem emptyOrganization (org : OrganizationId) :
    (SectorRequest.deleteAllForOrganizationInTransaction org).answer c =
      (.error (.ofFault fault), c) := by
  obtain ⟨r, hdatabase, hr, -⟩ := h.shows
  rw [SectorRequest.answer_deleteAllForOrganizationInTransaction hdatabase hr, h.change_eq]

end Barred

/-! ## Requests -/

section Requests

variable {c c' : Connection} {onError : StoreError → ServiceError}
  {next : α → Serving (StateM Session) β}

theorem Alike.lookUpOrganizations {request : OrganizationRequest α} {a : α}
    (h : request.answer c = (.ok a, c)) (h' : request.answer c' = (.ok a, c'))
    (hnext : Alike c c' (next a)) :
    Alike c c' (backend.askOrganizations request onError >>= next) :=
  .read (fun _ hc => run_askOrganizations_ok (hc ▸ h))
    (fun _ hc' => run_askOrganizations_ok (hc' ▸ h')) hnext

theorem Alike.lookUpSectors {request : SectorRequest α} {a : α}
    (h : request.answer c = (.ok a, c)) (h' : request.answer c' = (.ok a, c'))
    (hnext : Alike c c' (next a)) : Alike c c' (backend.askSectors request onError >>= next) :=
  .read (fun _ hc => run_askSectors_ok (hc ▸ h)) (fun _ hc' => run_askSectors_ok (hc' ▸ h')) hnext

theorem run_askOrganizations_error {s : Session} {request : OrganizationRequest α}
    {error : StoreError} (h : request.answer s.connection = (.error error, s.connection)) :
    s.run (backend.askOrganizations request onError) =
      (.error (.refused (onError error)), s) := by
  rw [run_askOrganizations, h]
  rfl

theorem run_askSectors_error {s : Session} {request : SectorRequest α} {error : StoreError}
    (h : request.answer s.connection = (.error error, s.connection)) :
    s.run (backend.askSectors request onError) = (.error (.refused (onError error)), s) := by
  rw [run_askSectors, h]
  rfl

theorem alike_changeOrganizations {request : OrganizationRequest α} {error : StoreError}
    (h : request.answer c = (.error error, c)) (h' : request.answer c' = (.error error, c'))
    (next : α → Serving (StateM Session) β) :
    Alike c c' (backend.askOrganizations request onError >>= next) :=
  .stop (fun _ hc => run_askOrganizations_error (hc ▸ h))
    (fun _ hc' => run_askOrganizations_error (hc' ▸ h')) next

theorem alike_changeSectors {request : SectorRequest α} {error : StoreError}
    (h : request.answer c = (.error error, c)) (h' : request.answer c' = (.error error, c'))
    (next : α → Serving (StateM Session) β) :
    Alike c c' (backend.askSectors request onError >>= next) :=
  .stop (fun _ hc => run_askSectors_error (hc ▸ h))
    (fun _ hc' => run_askSectors_error (hc' ▸ h')) next

end Requests

/-! ## The calls -/

section Calls

variable {tenant : TenantId} {shown : Records} {fault : Fault} {c c' : Connection}
  (h : Barred tenant shown fault c) (h' : Barred tenant shown fault c')
include h h'

theorem alike_findOrganization (code : String) {next : Organization → Serving (StateM Session) β}
    (hnext : ∀ o, Alike c c' (next o)) :
    Alike c c' (backend.findOrganization tenant code >>= next) := by
  rw [Backend.findOrganization, bind_assoc]
  exact .lookUpOrganizations (h.findOrganization code) (h'.findOrganization code) (.found hnext)

theorem alike_findSector (id : SectorId) {next : Sector → Serving (StateM Session) β}
    (hnext : ∀ s, Alike c c' (next s)) : Alike c c' (backend.findSector tenant id >>= next) := by
  rw [Backend.findSector, bind_assoc]
  exact .lookUpSectors (h.findSector id) (h'.findSector id) (.found hnext)

theorem alike_findParent (org : OrganizationId) (parentCode : Option String)
    {next : Sector → Serving (StateM Session) β} (hnext : ∀ s, Alike c c' (next s)) :
    Alike c c' (backend.findParent tenant org parentCode >>= next) := by
  rw [Backend.findParent]
  cases parentCode? parentCode with
  | some code =>
    simp only [bind_assoc]
    exact .lookUpSectors (h.findSectorByCode code) (h'.findSectorByCode code) (.found hnext)
  | none =>
    simp only [Backend.findRoot, bind_assoc]
    exact .lookUpSectors (h.findRoot org) (h'.findRoot org) (.found hnext)

/-- Nothing comes after the insert of a sector. -/
theorem alike_addSector (org : OrganizationId) (label : String) (parentCode : Option String)
    (status : Status) (next : SectorId → Serving (StateM Session) β) :
    Alike c c' (backend.addSector tenant org label parentCode status >>= next) := by
  simp only [Backend.addSector, bind_assoc]
  refine .normalized fun label => ?_
  refine .lookUpSectors (h.findLabelOwner label) (h'.findLabelOwner label) ?_
  split
  · exact alike_refuse _
  · simp only [bind_assoc]
    refine alike_findParent h h' org parentCode fun parent => .newCode fun code => ?_
    cases NewSector.childOf? parent code label status with
    | none => exact alike_throw _
    | some child => exact alike_changeSectors (h.createSector child) (h'.createSector child) next

theorem alike_createOrganization (hidle : c.saved = none) (hidle' : c'.saved = none)
    (hcontended : c.contended = c'.contended) (draft : OrganizationDraft) :
    Alike c c' (backend.createOrganization tenant draft) := by
  rw [Backend.createOrganization]
  refine .reported _ (.normalized fun code => .normalized fun label => ?_)
  refine .transaction hidle hidle' hcontended ?_
  have hopened := h.opened
  have hopened' := h'.opened
  refine .lookUpOrganizations (hopened.hasOrganizationCode code)
    (hopened'.hasOrganizationCode code) (.unlessTaken ?_)
  refine .lookUpOrganizations (hopened.hasOrganizationLabel label)
    (hopened'.hasOrganizationLabel label) (.unlessTaken ?_)
  exact alike_changeOrganizations (hopened.createOrganization _) (hopened'.createOrganization _) _

theorem alike_createSectorIn (code : String) (draft : SectorDraft) :
    Alike c c' (backend.createSectorIn tenant code draft) := by
  rw [Backend.createSectorIn]
  exact .reported _ (alike_findOrganization h h' code fun o => alike_addSector h h' o.id _ _ _ _)

theorem alike_renameSector (id : SectorId) (label : String) :
    Alike c c' (backend.renameSector tenant id label) := by
  rw [Backend.renameSector]
  refine .reported _ (.normalized fun label => alike_findSector h h' id fun sector => ?_)
  refine .lookUpSectors (h.findLabelOwner label) (h'.findLabelOwner label) ?_
  cases shown.sectorByLabel? tenant label with
  | none =>
    exact alike_changeSectors (h.renameSector tenant id label) (h'.renameSector tenant id label) _
  | some owner =>
    refine .unlessTaken ?_
    exact alike_changeSectors (h.renameSector tenant id label) (h'.renameSector tenant id label) _

theorem alike_renameOrganization (code label : String) :
    Alike c c' (backend.renameOrganization tenant code label) := by
  rw [Backend.renameOrganization]
  refine .reported _ (.normalized fun label => alike_findOrganization h h' code fun o => ?_)
  split
  · exact alike_pure ()
  · refine .lookUpOrganizations (h.hasOrganizationLabel label) (h'.hasOrganizationLabel label)
      (.unlessTaken ?_)
    exact alike_changeOrganizations (h.renameOrganization tenant code label)
      (h'.renameOrganization tenant code label) _

theorem alike_deleteSector (id : SectorId) : Alike c c' (backend.deleteSector tenant id) := by
  rw [Backend.deleteSector]
  refine .reported _ (alike_findSector h h' id fun _ => ?_)
  rw [← bind_pure (backend.askSectors _ _)]
  exact alike_changeSectors (h.deleteSector tenant id) (h'.deleteSector tenant id) pure

theorem alike_deleteOrganization (hidle : c.saved = none) (hidle' : c'.saved = none)
    (hcontended : c.contended = c'.contended) (code : String) :
    Alike c c' (backend.deleteOrganization tenant code) := by
  rw [Backend.deleteOrganization]
  refine .reported _ (alike_findOrganization h h' code fun o => ?_)
  refine .transaction hidle hidle' hcontended ?_
  exact alike_changeSectors (h.opened.emptyOrganization o.id) (h'.opened.emptyOrganization o.id) _

end Calls

/-- What a call ends in while nothing can be written is told by what its tenant is shown and by the
codes to come, and it changes nothing. -/
theorem Barred.perform {mutation : Mutation} {shown : Records} {fault : Fault} {c c' : Connection}
    (h : Barred mutation.tenant shown fault c) (h' : Barred mutation.tenant shown fault c')
    (hidle : c.saved = none) (hidle' : c'.saved = none) (hcontended : c.contended = c'.contended) :
    Alike c c' (mutation.perform backend) := by
  cases mutation with
  | createOrganization tenant draft =>
    exact alike_createOrganization h h' hidle hidle' hcontended draft
  | createSector tenant org label parentCode =>
    rw [Mutation.perform, Backend.createSector, ← bind_pure (backend.addSector _ _ _ _ _)]
    exact .reported _ (alike_addSector h h' org label parentCode .active pure)
  | createSectorIn tenant code draft => exact alike_createSectorIn h h' code draft
  | renameSector tenant id label => exact alike_renameSector h h' id label
  | deleteSector tenant id => exact alike_deleteSector h h' id
  | renameOrganization tenant code label => exact alike_renameOrganization h h' code label
  | deleteOrganization tenant code =>
    exact alike_deleteOrganization h h' hidle hidle' hcontended code

end Session

end SectorForest
