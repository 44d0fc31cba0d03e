import SectorForest.Proofs.Congruence
import SectorForest.Proofs.Decision
import SectorForest.Proofs.Grounded

/-!
# New records and what is found of them

The stores may be asked for anything at any time, and need not be asked by the service: an
organization may get several roots or none, a sector may belong to another tenant than its
organization or name a parent that was never stored. `Session.StoreReachable` are the sessions that
this leads to.

Even so a new record is taken exactly if it fits, and is found afterwards as it was given, for its
tenant and for no other one. No look-up ever fails. `Session.StoreReachable.round_trip` says all of
this.
-/

namespace SectorForest

open Storage

variable {α : Type}

/-! ## Sessions that stores and service lead to -/

namespace Session

/-- The sessions that a freshly migrated database leads to by requests to the stores and calls of
the service, in any order, while transactions may be opened and closed at any time. -/
inductive StoreReachable : Session → Prop
  | fresh {s : Session} (h : s.Fresh) : StoreReachable s
  | organizations {s : Session} (h : StoreReachable s) {α : Type}
    (request : OrganizationRequest α) : StoreReachable (act request.answer s).2
  | sectors {s : Session} (h : StoreReachable s) {α : Type} (request : SectorRequest α) :
    StoreReachable (act request.answer s).2
  | transacts {s : Session} (h : StoreReachable s) (step : TransactionStep) :
    StoreReachable (act (Connection.transact step) s).2
  | calls {s : Session} (h : StoreReachable s) (operation : Operation) :
    StoreReachable (s.run (operation.perform backend)).2
  /-- In between, anything may become another but the database and the open transaction. -/
  | meanwhile {s s' : Session} (h : StoreReachable s)
    (hdatabase : s'.connection.database = s.connection.database)
    (hsaved : s'.connection.saved = s.connection.saved) : StoreReachable s'

/-- Whatever session it is run from, an action keeps its connection grounded. -/
def KeepsGround (action : Serving (StateM Session) α) : Prop :=
  ∀ s : Session, s.connection.Grounded → (s.run action).2.connection.Grounded

/-- All that the service does keeps a connection grounded. -/
theorem keepsGround_congruent :
    Backend.Congruent (fun action _ => KeepsGround action) (backend (m := StateM Session))
      (backend (m := StateM Session)) :=
  Backend.Elementary.congruent
    { pure := fun _ _ hs => hs
      throw := fun _ _ hs => hs
      bind := fun h hnext s hs => run_bind_invariant (h s hs) hnext
      ending := fun h s hs => by
        rw [run_ending]
        exact h s hs
      organizations := fun request _ hs => request.answer_grounded hs
      sectors := fun request _ hs => request.answer_grounded hs
      transact := fun step _ hs => hs.transact step
      newCode := fun _ hs => hs
      emit := fun _ _ hs => hs }

variable {s : Session}

theorem Fresh.grounded (h : s.Fresh) : s.connection.Grounded where
  database := ⟨{}, Records.sound_empty, h.database.trans Schema.migrated_eq⟩
  saved := by
    intro db hsaved
    rw [h.idle] at hsaved
    cases hsaved

theorem StoreReachable.grounded (h : s.StoreReachable) : s.connection.Grounded := by
  induction h with
  | fresh h => exact h.grounded
  | organizations _ request ih => exact request.answer_grounded ih
  | sectors _ request ih => exact request.answer_grounded ih
  | transacts _ step ih => exact ih.transact step
  | calls _ operation ih => exact keepsGround_congruent.operate operation _ ih
  | meanwhile _ hdatabase hsaved ih =>
    exact ⟨hdatabase ▸ ih.database, fun db hdb => ih.saved db (hsaved ▸ hdb)⟩

/-- The sessions that the service alone leads to are among them. -/
theorem Reachable.storeReachable (h : s.Reachable) : s.StoreReachable := by
  obtain ⟨start, calls, hfresh, hrun⟩ := h
  induction hrun with
  | start => exact .fresh hfresh
  | call _ mutation ih => exact .calls ih (.change mutation)
  | meanwhile _ hdatabase hsaved ih => exact .meanwhile ih hdatabase hsaved

end Session

/-! ## New sectors -/

namespace Records

variable {r : Records} {n : NewSector}

/-- A new sector fits: what it says of its parent fits together, its owner is stored, and no sector
has its code or, in its tenant, its label. -/
structure AdmitsSector (r : Records) (n : NewSector) : Prop where
  shaped : Shaped n.parent n.hasParent n.depth
  owned : ∃ o ∈ r.organizations, o.id = n.org
  code_free : ∀ x ∈ r.sectors, x.code ≠ n.code
  label_free : ∀ x ∈ r.sectors, x.tenant = n.tenant → x.label ≠ n.label

/-- As long as there are numbers, the new sectors that fit are taken, and no other ones. -/
theorem insertSector_ok_iff (hroom : r.lastSector ≠ Int64.maxValue) :
    (∃ p, r.insertSector n = .ok p) ↔ r.AdmitsSector n := by
  constructor
  · rintro ⟨⟨id, r'⟩, hinsert⟩
    obtain ⟨-, hfault, howned, -⟩ := insertSector_eq_ok hinsert
    obtain ⟨hshaped, hlabel, hcode⟩ := Sector.fault?_eq_none _ hfault
    exact ⟨hshaped, howned, hcode, hlabel⟩
  · rintro ⟨hshaped, howned, hcode, hlabel⟩
    refine ⟨_, insertSector_free hroom howned hshaped ?_ ?_⟩
    · exact fun ⟨x, hx, htenant, hsame⟩ => hlabel x hx htenant hsame
    · exact fun ⟨x, hx, hsame⟩ => hcode x hx hsame

end Records

/-- Another tenant finds of its sectors what it found before there was a new one. -/
theorem SectorRequest.Finds.view_addSector {request : SectorRequest α} {tenant : TenantId}
    {view : Records → α} (h : SectorRequest.Finds request tenant view) {n : NewSector}
    (hother : tenant ≠ n.tenant) (r : Records) : view (r.addSector n) = view r := by
  have hnew : ¬ n.tenant = tenant := hother.symm
  cases h with
  | findByCode => simp [Records.sectorByCode?, Records.addSector, NewSector.stored, hnew]
  | findById => simp [Records.sector?, Records.addSector, NewSector.stored, hnew]
  | findByLabel => simp [Records.sectorByLabel?, Records.addSector, NewSector.stored, hnew]
  | findRoot => simp [Records.root?, Records.addSector, NewSector.stored, hnew]
  | findAllForOrganization => simp [Records.sectorsOf_addSector, hother]

/-! ## New organizations -/

namespace Records

variable {r : Records} {o : NewOrganization}

/-- A new organization fits: no organization of its tenant has its code or its label. -/
structure AdmitsOrganization (r : Records) (o : NewOrganization) : Prop where
  code_free : ∀ x ∈ r.organizations, x.tenant = o.tenant → x.code ≠ o.code
  label_free : ∀ x ∈ r.organizations, x.tenant = o.tenant → x.label ≠ o.label

/-- As long as there are numbers, the new organizations that fit are taken, and no other ones. -/
theorem insertOrganization_ok_iff (hroom : r.lastOrganization ≠ Int64.maxValue) :
    (∃ p, r.insertOrganization o = .ok p) ↔ r.AdmitsOrganization o := by
  constructor
  · rintro ⟨⟨id, r'⟩, hinsert⟩
    obtain ⟨-, hfault, -⟩ := insertOrganization_eq_ok hinsert
    obtain ⟨hlabel, hcode⟩ := Organization.fault?_eq_none _ hfault
    exact ⟨hcode, hlabel⟩
  · rintro ⟨hcode, hlabel⟩
    refine ⟨_, insertOrganization_free hroom ?_ ?_⟩
    · exact fun ⟨x, hx, htenant, hsame⟩ => hcode x hx htenant hsame
    · exact fun ⟨x, hx, htenant, hsame⟩ => hlabel x hx htenant hsame

/-- A new organization is the last one of its tenant. -/
theorem organizationsOf_addOrganization :
    (r.addOrganization o).organizationsOf o.tenant =
      r.organizationsOf o.tenant ++ [o.stored (r.lastOrganization + 1)] := by
  rw [organizationsOf, addOrganization, List.filter_append, ← organizationsOf]
  simp [NewOrganization.stored]

end Records

/-- Another tenant finds of its organizations what it found before there was a new one. -/
theorem OrganizationRequest.Finds.view_addOrganization {request : OrganizationRequest α}
    {tenant : TenantId} {view : Records → α} (h : OrganizationRequest.Finds request tenant view)
    {o : NewOrganization} (hother : tenant ≠ o.tenant) (r : Records) :
    view (r.addOrganization o) = view r := by
  have hnew : ¬ o.tenant = tenant := hother.symm
  cases h with
  | findByCode =>
    simp [Records.organization?, Records.addOrganization, NewOrganization.stored, hnew]
  | findAll =>
    simp [Records.organizationsOf, Records.addOrganization, NewOrganization.stored, hnew]
  | existsByCode =>
    simp [Records.hasOrganizationCode, Records.addOrganization, NewOrganization.stored, hnew]
  | existsByLabel =>
    simp [Records.hasOrganizationLabel, Records.addOrganization, NewOrganization.stored, hnew]

/-! ## The round trip -/

/-- A request to store something new succeeds exactly if `Admitted`. If it does, `Found` tells of
its answer and the connection afterwards. -/
structure Storage.Connection.Creates (c : Connection) (answer : StoreAction α) (Admitted : Prop)
    (Found : α → Connection → Prop) : Prop where
  ok_iff : (∃ id, (answer c).1 = .ok id) ↔ Admitted
  found {id : α} (h : (answer c).1 = .ok id) : Found id (answer c).2

/-- What sectors are found after the connection `c` has become `c'` by a new one that was given the
number `id`. -/
structure SectorFound (n : NewSector) (c : Connection) (id : SectorId) (c' : Connection) :
    Prop where
  next : id = c.database.records.lastSector + 1
  unused : ∀ x ∈ c.database.records.sectors, x.id < id
  findById : ((SectorRequest.findById n.tenant id).answer c').1 = .ok (some (n.stored id))
  findByCode : ((SectorRequest.findByCode n.tenant n.code).answer c').1 = .ok (some (n.stored id))
  findByLabel : ((SectorRequest.findByLabel n.tenant n.label).answer c').1 =
    .ok (some { id := id, code := n.code })
  findAll (org : OrganizationId) :
    ((SectorRequest.findAllForOrganization n.tenant org).answer c').1 =
      ((SectorRequest.findAllForOrganization n.tenant org).answer c).1.map fun before =>
        before ++ if org = n.org then [n.stored id] else []
  others {α : Type} {request : SectorRequest α} {tenant : TenantId} {view : Records → α}
    (h : SectorRequest.Finds request tenant view) (hother : tenant ≠ n.tenant) :
    (request.answer c').1 = (request.answer c).1

/-- What organizations are found after the connection `c` has become `c'` by a new one that was
given the number `id`. -/
structure OrganizationFound (o : NewOrganization) (c : Connection) (id : OrganizationId)
    (c' : Connection) : Prop where
  next : id = c.database.records.lastOrganization + 1
  unused : ∀ x ∈ c.database.records.organizations, x.id < id
  findByCode : ((OrganizationRequest.findByCode o.tenant o.code).answer c').1 =
    .ok (some (o.stored id))
  findAll : ((OrganizationRequest.findAll o.tenant).answer c').1 =
    ((OrganizationRequest.findAll o.tenant).answer c).1.map fun before => before ++ [o.stored id]
  existsByCode : ((OrganizationRequest.existsByCode o.tenant o.code).answer c').1 = .ok true
  existsByLabel : ((OrganizationRequest.existsByLabel o.tenant o.label).answer c').1 = .ok true
  others {α : Type} {request : OrganizationRequest α} {tenant : TenantId} {view : Records → α}
    (h : OrganizationRequest.Finds request tenant view) (hother : tenant ≠ o.tenant) :
    (request.answer c').1 = (request.answer c).1

section Creating

variable {c : Connection} {r : Records}

/-- A request that comes to a change of records succeeds if the change can be made. -/
theorem Storage.Connection.creates_of_change {answer : StoreAction α} {Admitted : Prop}
    {Found : α → Connection → Prop} (hfree : c.writeFault? .main = none)
    {change : Except Fault (α × Records)} (hanswer : answer c = c.change change)
    (hadmitted : (∃ p, change = .ok p) ↔ Admitted)
    (hfound : ∀ id r', change = .ok (id, r') → Found id { c with database := r'.database }) :
    c.Creates answer Admitted Found := by
  cases change with
  | ok p =>
    have hdone : answer c = (.ok p.1, { c with database := p.2.database }) := by
      rw [hanswer, Connection.change, hfree]
    refine ⟨iff_of_true ⟨p.1, by rw [hdone]⟩ (hadmitted.mp ⟨p, rfl⟩), fun hok => ?_⟩
    rw [hdone] at hok ⊢
    cases hok
    exact hfound p.1 p.2 rfl
  | error fault =>
    have hrefused : (answer c).1 = .error (.ofFault fault) := by
      rw [hanswer]
      unfold Connection.change
      rw [hfree]
      cases fault <;> rfl
    refine ⟨iff_of_false ?_ fun h => ?_, fun hok => ?_⟩
    · rintro ⟨id, hok⟩
      cases hrefused.symm.trans hok
    · obtain ⟨p, hok⟩ := hadmitted.mpr h
      cases hok
    · cases hrefused.symm.trans hok

theorem sectorFound_addSector {n : NewSector} (hr : r.Sound) (hc : c.database = r.database)
    (hroom : r.lastSector ≠ Int64.maxValue) (hnew : (r.addSector n).Sound) :
    SectorFound n c (r.lastSector + 1) { c with database := (r.addSector n).database } := by
  have hrecords : c.database.records = r := by
    rw [hc, Records.records_database hr.readable]
  -- a look-up before, and the same one afterwards
  have hbefore {α : Type} {request : SectorRequest α} {tenant : TenantId} {view : Records → α}
      (h : SectorRequest.Finds request tenant view) : (request.answer c).1 = .ok (view r) := by
    rw [h.answer_eq hc hr]
  have hafter {α : Type} {request : SectorRequest α} {tenant : TenantId} {view : Records → α}
      (h : SectorRequest.Finds request tenant view) :
      (request.answer { c with database := (r.addSector n).database }).1 =
        .ok (view (r.addSector n)) := by
    rw [h.answer_eq rfl hnew]
  constructor
  case next => rw [hrecords]
  case unused =>
    rw [hrecords]
    exact hr.id_lt_next hroom
  case findById => rw [hafter (.findById _ _), hnew.sector?_addSector]
  case findByCode => rw [hafter (.findByCode _ _), hnew.sectorByCode?_addSector]
  case findByLabel =>
    rw [hafter (.findByLabel _ _), hnew.sectorByLabel?_addSector]
    rfl
  case findAll =>
    intro org
    rw [hafter (.findAllForOrganization _ _), hbefore (.findAllForOrganization _ _)]
    simp only [Records.sectorsOf_addSector, true_and]
    rfl
  case others =>
    intro _ _ _ _ h hother
    rw [hafter h, hbefore h, h.view_addSector hother]

theorem organizationFound_addOrganization {o : NewOrganization} (hr : r.Sound)
    (hc : c.database = r.database) (hroom : r.lastOrganization ≠ Int64.maxValue)
    (hnew : (r.addOrganization o).Sound) :
    OrganizationFound o c (r.lastOrganization + 1)
      { c with database := (r.addOrganization o).database } := by
  have hrecords : c.database.records = r := by
    rw [hc, Records.records_database hr.readable]
  have hbefore {α : Type} {request : OrganizationRequest α} {tenant : TenantId}
      {view : Records → α} (h : OrganizationRequest.Finds request tenant view) :
      (request.answer c).1 = .ok (view r) := by
    rw [h.answer_eq hc]
  have hafter {α : Type} {request : OrganizationRequest α} {tenant : TenantId}
      {view : Records → α} (h : OrganizationRequest.Finds request tenant view) :
      (request.answer { c with database := (r.addOrganization o).database }).1 =
        .ok (view (r.addOrganization o)) := by
    rw [h.answer_eq rfl]
  constructor
  case next => rw [hrecords]
  case unused =>
    rw [hrecords]
    exact hr.organization_id_lt_next hroom
  case findByCode => rw [hafter (.findByCode _ _), hnew.organization?_addOrganization]
  case findAll =>
    rw [hafter (.findAll _), hbefore (.findAll _), Records.organizationsOf_addOrganization]
    rfl
  case existsByCode =>
    rw [hafter (.existsByCode _ _)]
    simp [Records.hasOrganizationCode, Records.addOrganization, NewOrganization.stored]
  case existsByLabel =>
    rw [hafter (.existsByLabel _ _)]
    simp [Records.hasOrganizationLabel, Records.addOrganization, NewOrganization.stored]
  case others =>
    intro _ _ _ _ h hother
    rw [hafter h, hbefore h, h.view_addOrganization hother]

end Creating

namespace Session

variable {s : Session}

theorem StoreReachable.creates_sector (h : s.StoreReachable)
    (hfree : s.connection.writeFault? .main = none)
    (hroom : s.records.lastSector ≠ Int64.maxValue) (n : NewSector) :
    ∀ request ∈ [SectorRequest.create n, .createInTransaction n],
      s.connection.Creates request.answer (s.records.AdmitsSector n)
        (SectorFound n s.connection) := by
  obtain ⟨hr, hc⟩ := h.grounded.database.records
  intro request hrequest
  have hanswer : request.answer s.connection =
      s.connection.change (s.records.insertSector n) := by
    rcases List.mem_pair.mp hrequest with rfl | rfl
    · exact SectorRequest.answer_create hc hr n
    · exact SectorRequest.answer_createInTransaction hc hr n
  apply Connection.creates_of_change hfree hanswer (Records.insertSector_ok_iff hroom)
  intro id r' hinsert
  have hnew := hr.insertSector hinsert
  obtain ⟨-, -, -, rfl, rfl⟩ := Records.insertSector_eq_ok hinsert
  exact sectorFound_addSector hr hc hroom hnew

theorem StoreReachable.creates_organization (h : s.StoreReachable)
    (hfree : s.connection.writeFault? .main = none)
    (hroom : s.records.lastOrganization ≠ Int64.maxValue) (o : NewOrganization) :
    ∀ request ∈ [OrganizationRequest.create o, .createInTransaction o],
      s.connection.Creates request.answer (s.records.AdmitsOrganization o)
        (OrganizationFound o s.connection) := by
  obtain ⟨hr, hc⟩ := h.grounded.database.records
  intro request hrequest
  have hanswer : request.answer s.connection =
      s.connection.change (s.records.insertOrganization o) := by
    rcases List.mem_pair.mp hrequest with rfl | rfl
    · exact OrganizationRequest.answer_create hc hr o
    · exact OrganizationRequest.answer_createInTransaction hc hr o
  apply Connection.creates_of_change hfree hanswer (Records.insertOrganization_ok_iff hroom)
  intro id r' hinsert
  have hnew := hr.insertOrganization hinsert
  obtain ⟨-, -, rfl, rfl⟩ := Records.insertOrganization_eq_ok hinsert
  exact organizationFound_addOrganization hr hc hroom hnew

/-- Whatever the stores were asked for before, every look-up is answered as the records have it. As
long as the database can be written and there are numbers, a new record is stored exactly if it
fits, and is found afterwards as it was given. -/
theorem StoreReachable.round_trip (h : s.StoreReachable) :
    (∀ {α : Type} {request : OrganizationRequest α} {tenant : TenantId} {view : Records → α},
      OrganizationRequest.Finds request tenant view →
        request.answer s.connection = (.ok (view s.records), s.connection)) ∧
    (∀ {α : Type} {request : SectorRequest α} {tenant : TenantId} {view : Records → α},
      SectorRequest.Finds request tenant view →
        request.answer s.connection = (.ok (view s.records), s.connection)) ∧
    (s.connection.writeFault? .main = none →
      (s.records.lastSector ≠ Int64.maxValue → ∀ n : NewSector,
        ∀ request ∈ [SectorRequest.create n, .createInTransaction n],
          s.connection.Creates request.answer (s.records.AdmitsSector n)
            (SectorFound n s.connection)) ∧
      (s.records.lastOrganization ≠ Int64.maxValue → ∀ o : NewOrganization,
        ∀ request ∈ [OrganizationRequest.create o, .createInTransaction o],
          s.connection.Creates request.answer (s.records.AdmitsOrganization o)
            (OrganizationFound o s.connection))) := by
  obtain ⟨hr, hc⟩ := h.grounded.database.records
  refine ⟨fun hfinds => hfinds.answer_eq hc, fun hfinds => hfinds.answer_eq hc hr, fun hfree => ?_⟩
  exact ⟨h.creates_sector hfree, h.creates_organization hfree⟩

section Crooked

open Records

/-- A second root for `acme`, of another tenant. -/
def foreignRoot : NewSector where
  tenant := 2
  org := 1
  code := "b"
  label := "Acme"
  parent := none
  hasParent := false
  depth := 0
  status := .inactive

/-- A sector of `acme` that names a parent that was never stored. -/
def stray : NewSector where
  tenant := 1
  org := 1
  code := " "
  label := ""
  parent := some 99
  hasParent := true
  depth := 7
  status := .active

/-- Records that the service would not make. -/
def crooked : Records :=
  (founded.addSector foreignRoot).addSector stray

theorem StoreReachable.insertSector {r r' : Records} {newCode : String} (hr : r.Sound)
    (h : (r.session newCode).StoreReachable) {n : NewSector} {id : SectorId}
    (hinsert : r.insertSector n = .ok (id, r')) : (r'.session newCode).StoreReachable := by
  have hanswer : (SectorRequest.create n).answer (r.session newCode).connection = _ :=
    SectorRequest.answer_create rfl hr n
  refine (h.sectors (.create n)).meanwhile ?_ ?_ <;> simp only [act, hanswer, hinsert] <;> rfl

theorem crooked_storeReachable : crooked.Sound ∧ (crooked.session "n").StoreReachable := by
  have hroot : founded.insertSector foreignRoot = .ok (2, founded.addSector foreignRoot) := rfl
  have hstray : (founded.addSector foreignRoot).insertSector stray = .ok (3, crooked) := rfl
  have hsound := reached_founded.sound.insertSector hroot
  have hreachable := (reached_founded.reachable "n").storeReachable
  exact ⟨hsound.insertSector hstray,
    .insertSector hsound (.insertSector reached_founded.sound hreachable hroot) hstray⟩

/-- While a transaction is open, another sector below the parent that is missing is stored and
found, and no second one with its label for the tenant that has it. -/
theorem round_trip_crooked :
    let s := (crooked.session "n").opened
    let twin : NewSector := { stray with tenant := 2, code := "c" }
    let rival : NewSector := { stray with code := "c" }
    s.StoreReachable ∧
    (∃ id, ((SectorRequest.createInTransaction twin).answer s.connection).1 = .ok id ∧
      SectorFound twin s.connection id
        ((SectorRequest.createInTransaction twin).answer s.connection).2) ∧
    (∀ id, ((SectorRequest.create rival).answer s.connection).1 ≠ .ok id) ∧
    (SectorRequest.findByLabel 1 "").answer s.connection =
      (.ok (some { id := 3, code := " " }), s.connection) := by
  intro s twin rival
  obtain ⟨hsound, hbefore⟩ := crooked_storeReachable
  have hreachable : s.StoreReachable := hbefore.transacts .start
  have hrecords : s.records = crooked := (hsound.session_holds "n").records
  obtain ⟨-, hfinds, hcreates⟩ := hreachable.round_trip
  obtain ⟨hcreates, -⟩ := hcreates rfl
  rw [hrecords] at hcreates
  have htwin := hcreates (by decide) twin (.createInTransaction twin) (by simp)
  have hrival := hcreates (by decide) rival (.create rival) (by simp)
  refine ⟨hreachable, ?_, ?_, ?_⟩
  · obtain ⟨id, hok⟩ := htwin.ok_iff.mpr ⟨by decide, by decide, by decide, by decide⟩
    exact ⟨id, hok, htwin.found hok⟩
  · intro id hok
    exact absurd (hrival.ok_iff.mp ⟨id, hok⟩).label_free (by decide)
  · rw [hfinds (.findByLabel 1 ""), hrecords]
    rfl

end Crooked

end Session

end SectorForest
