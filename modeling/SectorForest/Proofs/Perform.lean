import SectorForest.Proofs.Plan
import SectorForest.Proofs.Serving

/-!
# Calls carry out their plans

A call on a session that holds sound records ends as its plan says, with the records of the plan
behind the session: `Session.call_settled`. The one exception is a database that cannot be written
at present; then the call may be refused, and nothing is changed.

`Settles` is what is shown on the way, for each part of an operation. It has two readings: outside a
transaction a part that fails leaves the connection as it was, and inside one it leaves a connection
from which undoing the transaction leads back.
-/

namespace SectorForest

open Storage

variable {α β : Type}

/-- How a part of an operation ends that is to carry out a plan. `base` is the connection but for
the records, and `Restored` tells the connections in which a failure may leave it. -/
inductive Settled (base : Connection) (Restored : Connection → Prop) :
    Except Failure (α × Records) → Except Failure α → Connection → Prop
  | done (a : α) (r : Records) :
    Settled base Restored (.ok (a, r)) (.ok a) { base with database := r.database }
  | refused (failure : Failure) (c : Connection) (h : Restored c) :
    Settled base Restored (.error failure) (.error failure) c
  /-- Another client may write at present, or this one may not. -/
  | blocked (plan : Except Failure (α × Records)) (failure : Failure) (c : Connection)
    (h : Restored c) (hfault : base.writeFault? .main ≠ none) :
    Settled base Restored plan (.error failure) c

/-- Undoing changes nothing where no transaction is open. -/
theorem Storage.Connection.undone_idle {c : Connection} (h : c.saved = none) : c.undone = c := by
  cases c
  simp_all [undone]

/-- Undoing leads back to what was saved. -/
theorem Storage.Connection.undone_saved {c : Connection} (h : c.saved = none) (db : Database) :
    { c with database := db, saved := some c.database }.undone = c := by
  cases c
  simp_all [undone]

namespace Session

/-- A part of an operation carries out a plan. -/
def Settles (base : Connection) (Restored : Connection → Prop) (s : Session)
    (action : Serving (StateM Session) α) (plan : Except Failure (α × Records)) : Prop :=
  Settled base Restored plan (s.run action).1 (s.run action).2.connection

/-- A session that holds records on the connection `base`. -/
def On (base : Connection) (s : Session) (r : Records) : Prop :=
  s.connection = { base with database := r.database }

section Rules

variable {base : Connection} {Restored : Connection → Prop} {s : Session} {r : Records}

theorem On.database (h : s.On base r) : s.connection.database = r.database := by
  rw [h]

theorem Settles.done (h : s.On base r) (a : α) : s.Settles base Restored (pure a) (.ok (a, r)) := by
  rw [Settles, run_pure, h]
  exact .done a r

theorem Settles.refuse (h : Restored s.connection) (error : ServiceError) :
    s.Settles base Restored (refuse error : Serving (StateM Session) α)
      (.error (.refused error)) :=
  .refused _ _ h

theorem Settles.reported {operation : String} {action : Serving (StateM Session) α}
    {plan : Except Failure (α × Records)} (h : s.Settles base Restored action plan) :
    s.Settles base Restored (backend.reported operation action) plan := by
  rw [Settles, run_reported, reporting_fst, reporting_connection]
  exact h

/-- A part that leaves the connection alone. -/
theorem Settles.read {action : Serving (StateM Session) α} {a : α} {s' : Session}
    {next : α → Serving (StateM Session) β} {plan : Except Failure (β × Records)}
    (hread : s.run action = (.ok a, s')) (h : s'.Settles base Restored (next a) plan) :
    s.Settles base Restored (action >>= next) plan := by
  rw [Settles, run_bind_ok hread]
  exact h

theorem Settles.normalized {field : TextField} {text : String}
    {next : String → Serving (StateM Session) β} {plan : String → Except Failure (β × Records)}
    (hrestored : Restored s.connection)
    (h : ∀ chosen, s.Settles base Restored (next chosen) (plan chosen)) :
    s.Settles base Restored (Backend.normalized field text >>= next)
      (chosenText field text >>= plan) := by
  rw [Backend.normalized, chosenText]
  cases normalize field text with
  | ok chosen => exact h chosen
  | error error => exact .refused _ _ hrestored

theorem Settles.found {entity : Entity} {key : String} {found : Option α}
    {next : α → Serving (StateM Session) β} {plan : α → Except Failure (β × Records)}
    (hrestored : Restored s.connection)
    (h : ∀ a, found = some a → s.Settles base Restored (next a) (plan a)) :
    s.Settles base Restored (Backend.found entity key found >>= next)
      (need entity key found >>= plan) := by
  cases found with
  | some a => exact h a rfl
  | none => exact .refused _ _ hrestored

theorem Settles.unlessTaken {taken : Prop} [Decidable taken] {takenBy : Bool}
    (htaken : taken ↔ takenBy = true) {error : ServiceError}
    {next : Unit → Serving (StateM Session) β} {plan : Except Failure (β × Records)}
    (hrestored : Restored s.connection)
    (h : takenBy = false → s.Settles base Restored (next ()) plan) :
    s.Settles base Restored
      (if taken then (do let done ← SectorForest.refuse error; next done) else next ())
      (SectorForest.unlessTaken takenBy error >>= fun _ => plan) := by
  cases takenBy with
  | true =>
    rw [if_pos (htaken.mpr rfl)]
    exact .refused _ _ hrestored
  | false =>
    rw [if_neg fun ht => Bool.false_ne_true (htaken.mp ht)]
    exact h rfl

/-- One part after another. -/
theorem Settles.bind {action : Serving (StateM Session) α} {next : α → Serving (StateM Session) β}
    {plan : Except Failure (α × Records)} {nextPlan : α × Records → Except Failure (β × Records)}
    (h : s.Settles base Restored action plan)
    (hnext : ∀ a r', plan = .ok (a, r') → ∀ s' : Session, s'.On base r' →
      s'.Settles base Restored (next a) (nextPlan (a, r'))) :
    s.Settles base Restored (action >>= next) (plan >>= nextPlan) := by
  rw [Settles] at h
  cases hrun : s.run action with
  | mk result s' =>
    rw [hrun] at h
    generalize hafter : s'.connection = after at h
    cases h with
    | done a r' => exact Settles.read hrun (hnext a r' rfl s' hafter)
    | refused failure _ hrestored =>
      rw [Settles, run_bind_error hrun]
      exact .refused _ _ (hafter ▸ hrestored)
    | blocked _ failure _ hrestored hfault =>
      rw [Settles, run_bind_error hrun]
      exact .blocked _ _ _ (hafter ▸ hrestored) hfault

/-- A change that a store makes. -/
theorem Settles.change {ask : Serving (StateM Session) α} {onError : StoreError → ServiceError}
    {change : Except Fault (α × Records)}
    (hask : s.run ask = ((s.connection.change change).1.mapError fun e => .refused (onError e),
      { s with connection := (s.connection.change change).2 }))
    (hon : s.On base r) (hrestored : Restored s.connection)
    (hundone : Restored s.connection.undone) :
    s.Settles base Restored ask (carryOut change onError) := by
  have hfault : s.connection.writeFault? .main = base.writeFault? .main := by
    rw [hon]
    rfl
  rw [Settles, hask]
  -- a plan does not tell whether the database can be written at present
  cases hblocked : s.connection.writeFault? .main with
  | some fault =>
    simp only [Connection.change, hblocked]
    exact .blocked _ _ _ hrestored (by simp [← hfault, hblocked])
  | none =>
    cases change with
    | ok p =>
      simp only [Connection.change, hblocked]
      rw [hon]
      exact .done p.1 p.2
    | error fault =>
      -- running out of numbers undoes an open transaction, any other fault nothing
      cases fault <;> (simp only [Connection.change, hblocked]; exact .refused _ _ (by assumption))

/-! ## Requests on records -/

theorem run_askOrganizations_ok {request : OrganizationRequest α}
    {onError : StoreError → ServiceError} {a : α}
    (h : request.answer s.connection = (.ok a, s.connection)) :
    s.run (backend.askOrganizations request onError) = (.ok a, s) := by
  rw [run_askOrganizations, h]
  rfl

theorem run_askSectors_ok {request : SectorRequest α} {onError : StoreError → ServiceError} {a : α}
    (h : request.answer s.connection = (.ok a, s.connection)) :
    s.run (backend.askSectors request onError) = (.ok a, s) := by
  rw [run_askSectors, h]
  rfl

theorem run_askOrganizations_change {request : OrganizationRequest α}
    {onError : StoreError → ServiceError} {change : Except Fault (α × Records)}
    (h : request.answer s.connection = s.connection.change change) :
    s.run (backend.askOrganizations request onError) =
      ((s.connection.change change).1.mapError fun e => .refused (onError e),
        { s with connection := (s.connection.change change).2 }) := by
  rw [run_askOrganizations, h]

theorem run_askSectors_change {request : SectorRequest α}
    {onError : StoreError → ServiceError} {change : Except Fault (α × Records)}
    (h : request.answer s.connection = s.connection.change change) :
    s.run (backend.askSectors request onError) =
      ((s.connection.change change).1.mapError fun e => .refused (onError e),
        { s with connection := (s.connection.change change).2 }) := by
  rw [run_askSectors, h]

end Rules

/-! ## The operations -/

section Operations

variable {base : Connection} (Restored : Connection → Prop) {s : Session} {r : Records}
  (hon : s.On base r) (hr : r.Sound) (hrestored : Restored s.connection)
  (hundone : Restored s.connection.undone)
include hon hr hrestored hundone

theorem settles_deleteSector (tenant : TenantId) (id : SectorId) :
    s.Settles base Restored (backend.deleteSector tenant id) (r.planDeleteSector tenant id) := by
  have hfind := SectorRequest.answer_findById hon.database hr.readable tenant id
  have hdelete := SectorRequest.answer_delete hon.database hr tenant id
  rw [Backend.deleteSector, Records.planDeleteSector, Backend.findSector, bind_assoc]
  refine Settles.reported (Settles.read (run_askSectors_ok hfind) ?_)
  refine Settles.found hrestored fun _ _ => ?_
  exact Settles.change (run_askSectors_change hdelete) hon hrestored hundone

theorem settles_renameSector (tenant : TenantId) (id : SectorId) (label : String) :
    s.Settles base Restored (backend.renameSector tenant id label)
      (r.planRenameSector tenant id label) := by
  rw [Backend.renameSector, Records.planRenameSector]
  refine Settles.reported (Settles.normalized hrestored fun label => ?_)
  have hfind := SectorRequest.answer_findById hon.database hr.readable tenant id
  rw [Backend.findSector, bind_assoc]
  refine Settles.read (run_askSectors_ok hfind) (Settles.found hrestored fun sector hsector => ?_)
  have howner := SectorRequest.answer_findByLabel hon.database tenant label
  have hrename := SectorRequest.answer_rename hon.database hr tenant id label
  refine Settles.read (run_askSectors_ok howner) ?_
  -- all that is left to do where no other sector has the label
  have hrest : s.Settles base Restored
      (do
        let changed ← backend.askSectors (.rename tenant id label)
          (writeError .sector sector.code label)
        if changed = 0 then refuse (.notFound .sector (toString id.toInt)) else pure ())
      (do
        let renamed ←
          carryOut (r.renameSector tenant id label) (writeError .sector sector.code label)
        pure ((), renamed.2)) := by
    refine Settles.bind (Settles.change (run_askSectors_change hrename) hon hrestored hundone) ?_
    intro count r' hcount s' hon'
    -- the sector was found before, so that one row has changed
    obtain ⟨-, rfl, -⟩ := Records.renameSector_eq_ok hsector (carryOut_eq_ok hcount)
    exact Settles.done hon' ()
  cases r.sectorByLabel? tenant label with
  | none => exact hrest
  | some owner =>
    exact Settles.unlessTaken (by simp) hrestored fun _ => hrest

theorem settles_renameOrganization (tenant : TenantId) (code label : String) :
    s.Settles base Restored (backend.renameOrganization tenant code label)
      (r.planRenameOrganization tenant code label) := by
  rw [Backend.renameOrganization, Records.planRenameOrganization]
  refine Settles.reported (Settles.normalized hrestored fun label => ?_)
  have hfind := OrganizationRequest.answer_findByCode hon.database tenant code
  rw [Backend.findOrganization, bind_assoc]
  refine Settles.read (run_askOrganizations_ok hfind) (Settles.found hrestored fun o ho => ?_)
  split
  · exact Settles.done hon ()
  · have hexists := OrganizationRequest.answer_existsByLabel hon.database tenant label
    have hrename := OrganizationRequest.answer_rename hon.database hr tenant code label
    refine Settles.read (run_askOrganizations_ok hexists) ?_
    refine Settles.unlessTaken Iff.rfl hrestored fun _ => ?_
    refine Settles.bind
      (Settles.change (run_askOrganizations_change hrename) hon hrestored hundone) ?_
    intro count r' hcount s' hon'
    obtain ⟨-, rfl, -⟩ := Records.renameOrganization_eq_ok ho (carryOut_eq_ok hcount)
    exact Settles.done hon' ()

omit hundone in
/-- Looking for the parent of a new sector, and what is done below it. -/
theorem settles_findParent (tenant : TenantId) (org : OrganizationId) (code : Option String)
    {next : Sector → Serving (StateM Session) β} {plan : Sector → Except Failure (β × Records)}
    (h : ∀ parent, s.Settles base Restored (next parent) (plan parent)) :
    s.Settles base Restored (backend.findParent tenant org code >>= next)
      (r.parentFor tenant org code >>= plan) := by
  rw [Backend.findParent, Records.parentFor]
  cases parentCode? code with
  | some code =>
    have hfind := SectorRequest.answer_findByCode hon.database hr.readable tenant code
    simp only [bind_assoc]
    exact Settles.read (run_askSectors_ok hfind) (Settles.found hrestored fun parent _ => h parent)
  | none =>
    have hfind := SectorRequest.answer_findRoot hon.database hr.readable tenant org
    simp only [Backend.findRoot, bind_assoc]
    exact Settles.read (run_askSectors_ok hfind) (Settles.found hrestored fun parent _ => h parent)

/-- Creating a sector under the next code. -/
theorem settles_addSector (tenant : TenantId) (org : OrganizationId) (label : String)
    (parentCode : Option String) (status : Status) :
    s.Settles base Restored (backend.addSector tenant org label parentCode status)
      (r.planSector (s.codes s.codesTaken) tenant org label parentCode status) := by
  rw [Backend.addSector, Records.planSector]
  refine Settles.normalized hrestored fun label => ?_
  have howner := SectorRequest.answer_findByLabel hon.database tenant label
  refine Settles.read (run_askSectors_ok howner) ?_
  refine Settles.unlessTaken (by simp) hrestored fun _ => ?_
  refine settles_findParent Restored hon hr hrestored tenant org parentCode fun parent => ?_
  refine Settles.read run_newCode ?_
  rw [Records.childBelow]
  cases NewSector.childOf? parent (s.codes s.codesTaken) label status with
  | none => exact .refused _ _ hrestored
  | some child =>
    have hcreate := SectorRequest.answer_create hon.database hr child
    exact Settles.change (run_askSectors_change (s := { s with codesTaken := s.codesTaken + 1 })
      hcreate) hon hrestored hundone

theorem settles_createSector (tenant : TenantId) (org : OrganizationId) (label : String)
    (parentCode : Option String) :
    s.Settles base Restored (backend.createSector tenant org label parentCode)
      (r.planSector (s.codes s.codesTaken) tenant org label parentCode .active) :=
  Settles.reported
    (settles_addSector Restored hon hr hrestored hundone tenant org label parentCode .active)

theorem settles_createSectorIn (tenant : TenantId) (code : String) (draft : SectorDraft) :
    s.Settles base Restored (backend.createSectorIn tenant code draft)
      (r.planSectorIn (s.codes s.codesTaken) tenant code draft) := by
  rw [Backend.createSectorIn, Records.planSectorIn]
  have hfind := OrganizationRequest.answer_findByCode hon.database tenant code
  rw [Backend.findOrganization, bind_assoc]
  refine Settles.reported (Settles.read (run_askOrganizations_ok hfind) ?_)
  refine Settles.found hrestored fun o ho => ?_
  refine Settles.bind (settles_addSector Restored hon hr hrestored hundone tenant o.id draft.label
    draft.parentCode draft.status) ?_
  intro id r' hplan s' hon'
  -- the sector is read back under the number that it was given
  obtain ⟨hr', sector, -, hadded⟩ := hr.planSector hplan
  have hread := SectorRequest.answer_findById hon'.database hr'.readable tenant id
  rw [hadded] at hread
  rw [Backend.findSector]
  refine Settles.read (run_askSectors_ok hread) ?_
  simp only [hadded]
  exact Settles.done hon' _

end Operations

/-! ## The operations with a transaction of their own -/

section Transactions

variable {s : Session} {r : Records} (hidle : s.connection.saved = none)
include hidle

/-- A body in a transaction is carried out as a whole or leaves no trace. -/
theorem Settles.transaction {operation : String} {body : Serving (StateM Session) α}
    {plan : Except Failure (α × Records)}
    (h : s.opened.Settles s.opened.connection (fun c => c.undone = s.connection) body plan) :
    s.Settles s.connection (· = s.connection) (backend.transaction operation body) plan := by
  cases hcontended : s.connection.contended with
  | true =>
    rw [Settles, run_transaction_contended operation hidle hcontended]
    -- while another client may write, this one may not
    refine .blocked _ _ _ rfl ?_
    cases hobstacle : s.connection.obstacle <;>
      simp [Connection.writeFault?, hcontended, hobstacle]
  | false =>
    rw [Settles] at h
    cases hrun : s.opened.run body with
    | mk result s' =>
      rw [hrun] at h
      generalize hafter : s'.connection = after at h
      cases h with
      | done a r' =>
        obtain ⟨hresult, hconnection⟩ :=
          run_transaction_ok operation hidle hcontended hrun (by rw [hafter]; rfl)
        rw [Settles, hresult, hconnection, hafter]
        have hbase : { s.opened.connection with database := r'.database, saved := none } =
            { s.connection with database := r'.database } := by
          rw [← hidle]
          rfl
        rw [hbase]
        exact .done a r'
      | refused failure _ hrestored =>
        obtain ⟨hresult, hconnection⟩ :=
          run_transaction_error operation hidle hcontended hrun
        rw [Settles, hresult, hconnection, hafter]
        exact .refused _ _ hrestored
      | blocked _ failure _ hrestored hfault =>
        obtain ⟨hresult, hconnection⟩ :=
          run_transaction_error operation hidle hcontended hrun
        rw [Settles, hresult, hconnection, hafter]
        exact .blocked _ _ _ hrestored hfault

/-- Undoing the transaction leads back, whatever records it has come to. -/
theorem On.undone {s' : Session} {r' : Records} (h : s'.On s.opened.connection r') :
    s'.connection.undone = s.connection ∧ s'.connection.undone.undone = s.connection := by
  have hbase : s'.connection.undone = s.connection := by
    rw [h]
    exact Connection.undone_saved hidle r'.database
  rw [hbase]
  exact ⟨rfl, Connection.undone_idle hidle⟩

theorem settles_createOrganization (hdatabase : s.connection.database = r.database) (hr : r.Sound)
    (tenant : TenantId) (draft : OrganizationDraft) :
    s.Settles s.connection (· = s.connection) (backend.createOrganization tenant draft)
      (r.planOrganization tenant draft) := by
  rw [Backend.createOrganization, Records.planOrganization]
  refine Settles.reported (Settles.normalized rfl fun code => ?_)
  refine Settles.normalized rfl fun label => ?_
  refine Settles.transaction hidle ?_
  -- inside the transaction every failure is undone to the session before it
  have hon : s.opened.On s.opened.connection r := by
    rw [On, ← hdatabase]
    rfl
  obtain ⟨hrestored, hundone⟩ := On.undone hidle hon
  have hcode := OrganizationRequest.answer_existsByCode hon.database tenant code
  refine Settles.read (run_askOrganizations_ok hcode) ?_
  refine Settles.unlessTaken Iff.rfl hrestored fun _ => ?_
  have hlabel := OrganizationRequest.answer_existsByLabel hon.database tenant label
  refine Settles.read (run_askOrganizations_ok hlabel) ?_
  refine Settles.unlessTaken Iff.rfl hrestored fun _ => ?_
  have hcreate := OrganizationRequest.answer_createInTransaction hon.database hr
    { tenant, code, label, kind := draft.kind, status := draft.status }
  refine Settles.bind
    (Settles.change (run_askOrganizations_change hcreate) hon hrestored hundone) ?_
  intro org added hadded s' hon'
  obtain ⟨hrestored', hundone'⟩ := On.undone hidle hon'
  have hr' := hr.insertOrganization (carryOut_eq_ok hadded)
  have hroot := SectorRequest.answer_createInTransaction hon'.database hr'
    (NewSector.root tenant org code label)
  refine Settles.bind (Settles.change (run_askSectors_change hroot) hon' hrestored' hundone') ?_
  intro _ rooted _ s'' hon''
  exact Settles.done hon'' org

theorem settles_dissolution (hdatabase : s.connection.database = r.database) (hr : r.Sound)
    (tenant : TenantId) (code : String) (org : OrganizationId) :
    s.Settles s.connection (· = s.connection) (backend.transaction "org_delete" do
        let _ ← backend.askSectors (.deleteAllForOrganizationInTransaction org)
        let _ ← backend.askOrganizations (.deleteInTransaction tenant code))
      (r.planDissolution tenant code org) := by
  refine Settles.transaction hidle ?_
  have hon : s.opened.On s.opened.connection r := by
    rw [On, ← hdatabase]
    rfl
  obtain ⟨hrestored, hundone⟩ := On.undone hidle hon
  have hempty := SectorRequest.answer_deleteAllForOrganizationInTransaction hon.database hr org
  refine Settles.bind (Settles.change (run_askSectors_change hempty) hon hrestored hundone) ?_
  intro _ emptied hemptied s' hon'
  obtain ⟨hrestored', hundone'⟩ := On.undone hidle hon'
  have hremove := OrganizationRequest.answer_deleteInTransaction hon'.database tenant code
  refine Settles.bind
    (Settles.change (run_askOrganizations_change hremove) hon' hrestored' hundone') ?_
  intro _ removed _ s'' hon''
  exact Settles.done hon'' ()

theorem settles_deleteOrganization (hdatabase : s.connection.database = r.database) (hr : r.Sound)
    (tenant : TenantId) (code : String) :
    s.Settles s.connection (· = s.connection) (backend.deleteOrganization tenant code)
      (r.planDeleteOrganization tenant code) := by
  have hfind := OrganizationRequest.answer_findByCode hdatabase tenant code
  rw [Backend.deleteOrganization, Records.planDeleteOrganization, Backend.findOrganization,
    bind_assoc]
  refine Settles.reported (Settles.read (run_askOrganizations_ok hfind) ?_)
  refine Settles.found rfl fun organization _ => ?_
  exact settles_dissolution hidle hdatabase hr tenant code organization.id

end Transactions

/-! ## Calls -/

/-- What a call ends in, and the session afterwards. -/
def call (s : Session) (mutation : Mutation) : Except Failure mutation.Answer × Session :=
  s.run (mutation.perform backend)

theorem perform_settles {s : Session} {r : Records} (hidle : s.connection.saved = none)
    (hdatabase : s.connection.database = r.database) (hr : r.Sound) (mutation : Mutation) :
    s.Settles s.connection (· = s.connection) (mutation.perform backend)
      (r.plan (s.codes s.codesTaken) mutation) := by
  have hon : s.On s.connection r := by
    rw [On, ← hdatabase]
  have hundone : s.connection.undone = s.connection := Connection.undone_idle hidle
  cases mutation with
  | createOrganization tenant draft =>
    exact settles_createOrganization hidle hdatabase hr tenant draft
  | createSector tenant org label parentCode =>
    exact settles_createSector (· = s.connection) hon hr rfl hundone tenant org label parentCode
  | createSectorIn tenant code draft =>
    exact settles_createSectorIn (· = s.connection) hon hr rfl hundone tenant code draft
  | renameSector tenant id label =>
    exact settles_renameSector (· = s.connection) hon hr rfl hundone tenant id label
  | deleteSector tenant id =>
    exact settles_deleteSector (· = s.connection) hon hr rfl hundone tenant id
  | renameOrganization tenant code label =>
    exact settles_renameOrganization (· = s.connection) hon hr rfl hundone tenant code label
  | deleteOrganization tenant code =>
    exact settles_deleteOrganization hidle hdatabase hr tenant code

/-- Every call outside a transaction carries out its plan. -/
theorem call_settled {s : Session} {r : Records} (hidle : s.connection.saved = none)
    (hdatabase : s.connection.database = r.database) (hr : r.Sound) (mutation : Mutation) :
    Settled s.connection (· = s.connection) (r.plan (s.codes s.codesTaken) mutation)
      (s.call mutation).1 (s.call mutation).2.connection :=
  perform_settles hidle hdatabase hr mutation

end Session

end SectorForest
