import SectorForest.Proofs.Roots
import SectorForest.Proofs.Watch

/-!
# Why the service refuses

A call that is refused tells its caller what is wrong with it: a text that is none, a record that is
not there, or a code or label that is taken. Everything else that could go wrong needs another
writer, a fault from outside, or more sectors than can be numbered and told apart by their depth:
`Session.Run.dependable` for the sessions that runs from a freshly migrated database lead to.

`Refuses` is kept by every step of a plan. That a new sector may always lie one level below its
parent is due to `Records.Shallow`: no sector lies deeper than its number.
-/

namespace SectorForest

open Storage

variable {α β : Type}

/-! ## Errors that are to be expected -/

/-- An error that tells the caller what is wrong with the call. -/
def ServiceError.Expected : ServiceError → Prop
  | .notFound .. | .conflict .. | .invalidInput .. => True
  | .rootNotFound | .persistence _ => False

/-- Whatever fails does so with an error that is to be expected. -/
def Refuses (ending : Except Failure α) : Prop :=
  ∀ failure, ending = .error failure → ∃ error, failure = .refused error ∧ error.Expected

theorem refuses_ok (a : α) : Refuses (.ok a : Except Failure α) := by
  rintro failure ⟨⟩

theorem refuses_error {error : ServiceError} (h : error.Expected) :
    Refuses (.error (.refused error) : Except Failure α) := by
  rintro failure ⟨⟩
  exact ⟨error, rfl, h⟩

theorem Refuses.bind {x : Except Failure α} {f : α → Except Failure β} (h : Refuses x)
    (hnext : ∀ a, x = .ok a → Refuses (f a)) : Refuses (x >>= f) := by
  cases x with
  | ok a => exact hnext a rfl
  | error failure =>
    obtain ⟨error, rfl, herror⟩ := h failure rfl
    exact refuses_error herror

theorem refuses_chosenText (field : TextField) (text : String) :
    Refuses (chosenText field text) := by
  unfold chosenText normalize
  dsimp only
  split
  · exact refuses_error trivial
  · split
    · exact refuses_error trivial
    · exact refuses_ok _

theorem refuses_need (entity : Entity) (key : String) (found : Option α) :
    Refuses (need entity key found) := by
  cases found with
  | none => exact refuses_error trivial
  | some a => exact refuses_ok a

theorem refuses_unlessTaken (taken : Bool) (entity : Entity) (field : TextField) (value : String) :
    Refuses (unlessTaken taken (.conflict entity field value)) := by
  cases taken with
  | true => exact refuses_error trivial
  | false => exact refuses_ok ()

/-- A violation of uniqueness is a conflict. -/
theorem expected_writeError (entity : Entity) (code label detail : String) :
    (writeError entity code label (.ofFault (.notUnique detail))).Expected := by
  have hdetail : (StoreError.ofFault (.notUnique detail)).uniqueDetail? = some detail := rfl
  rw [writeError, hdetail]
  dsimp only
  split <;> trivial

/-- A change that tables refuse for the sake of uniqueness only. -/
def UniqueOnly (change : Except Fault α) : Prop :=
  ∀ fault, change = .error fault → ∃ detail, fault = .notUnique detail

theorem UniqueOnly.refuses {change : Except Fault (α × Records)} (h : UniqueOnly change)
    (entity : Entity) (code label : String) :
    Refuses (carryOut change (writeError entity code label)) := by
  cases change with
  | ok done => exact refuses_ok done
  | error fault =>
    obtain ⟨detail, rfl⟩ := h fault rfl
    exact refuses_error (expected_writeError entity code label detail)

/-! ## What tables refuse -/

theorem Organization.fault?_unique (others : List Organization) (o : Organization) {fault : Fault}
    (h : o.fault? others = some fault) : ∃ detail, fault = .notUnique detail := by
  unfold Organization.fault? at h
  split at h
  · cases h
    exact ⟨_, rfl⟩
  · split at h
    · cases h
      exact ⟨_, rfl⟩
    · cases h

theorem Sector.fault?_unique (others : List Sector) {s : Sector}
    (hshaped : Shaped s.parent s.hasParent s.depth) {fault : Fault}
    (h : s.fault? others = some fault) : ∃ detail, fault = .notUnique detail := by
  unfold Sector.fault? at h
  split at h
  · exact absurd hshaped ‹_›
  · split at h
    · cases h
      exact ⟨_, rfl⟩
    · split at h
      · cases h
        exact ⟨_, rfl⟩
      · cases h

namespace Records

variable {r : Records} {tenant : TenantId} {newCode : String}

theorem uniqueOnly_insertOrganization (o : NewOrganization)
    (hroom : r.lastOrganization ≠ Int64.maxValue) : UniqueOnly (r.insertOrganization o) := by
  intro fault h
  rw [insertOrganization, if_neg hroom] at h
  cases hfault : (o.stored (r.lastOrganization + 1)).fault? r.organizations with
  | none => rw [hfault] at h; cases h
  | some found =>
    rw [hfault] at h
    cases h
    exact Organization.fault?_unique _ _ hfault

/-- A sector is refused for the sake of uniqueness only, if its owner is stored and what it says of
its parent fits together. -/
theorem uniqueOnly_insertSector {s : NewSector} (hroom : r.lastSector ≠ Int64.maxValue)
    (howner : ∃ o ∈ r.organizations, o.id = s.org) (hshaped : Shaped s.parent s.hasParent s.depth) :
    UniqueOnly (r.insertSector s) := by
  intro fault h
  have howned : (r.organizations.any fun o => o.id == s.org) = true := by
    simpa using howner
  rw [insertSector, if_neg hroom, howned] at h
  cases hfault : (s.stored (r.lastSector + 1)).fault? r.sectors with
  | none => rw [hfault] at h; cases h
  | some found =>
    rw [hfault] at h
    cases h
    exact Sector.fault?_unique _ hshaped hfault

theorem uniqueOnly_renameOrganization (code label : String) :
    UniqueOnly (r.renameOrganization tenant code label) := by
  intro fault h
  rw [renameOrganization] at h
  split at h
  · cases h
  · split at h
    · cases h
      exact ⟨_, rfl⟩
    · cases h

theorem uniqueOnly_renameSector (id : SectorId) (label : String) :
    UniqueOnly (r.renameSector tenant id label) := by
  intro fault h
  rw [renameSector] at h
  split at h
  · cases h
  · split at h
    · cases h
      exact ⟨_, rfl⟩
    · cases h

/-! ## Depths and numbers -/

/-- Every sector lies at a depth below its number. -/
def Shallow (r : Records) : Prop :=
  ∀ s ∈ r.sectors, (s.depth.toNat : Int) < s.id.toInt

theorem Shallow.addSector (h : r.Shallow) {new : NewSector}
    (hroom : r.lastSector ≠ Int64.maxValue)
    (hdepth : (new.depth.toNat : Int) ≤ r.lastSector.toInt) : (r.addSector new).Shallow := by
  intro s hs
  rcases List.mem_append.mp hs with hs | hs
  · exact h s hs
  · rw [List.mem_singleton.mp hs]
    show (new.depth.toNat : Int) < (r.lastSector + 1).toInt
    rw [toInt_next hroom]
    omega

theorem Shallow.grow (h : r.Shallow) (hr : r.Sound) {org : OrganizationId} {label : String}
    {parentCode : Option String} {status : Status} {parent : Sector} {child : NewSector}
    (hgrows : r.Grows newCode tenant org label parentCode status parent child) :
    (r.addSector child).Shallow := by
  obtain ⟨hmem, -⟩ := r.parentFor_eq_ok hgrows.parentFor_eq
  have hparent := h parent hmem
  have hle := Int64.le_iff_toInt_le.mp (hr.sectors_le parent hmem).2
  have hdepth := hgrows.toNat_depth
  exact h.addSector hgrows.room (by omega)

theorem Effect.shallow {r' : Records} {mutation : Mutation} {a : mutation.Answer}
    (h : r.Effect newCode mutation a r') (hr : r.Sound) (hshallow : r.Shallow) : r'.Shallow := by
  cases h with
  | @createOrganization tenant draft code label _ _ hfounds =>
    have hadded : (r.addOrganization (draft.named tenant code label)).Shallow := hshallow
    exact hadded.addSector hfounds.sector_room (Int64.le_iff_toInt_le.mp hr.lastSector_nonneg)
  | createSector hgrows => exact hshallow.grow hr hgrows
  | createSectorIn _ hgrows => exact hshallow.grow hr hgrows
  | renameSector _ _ _ =>
    refine List.forall_mem_map.mpr fun s hs => ?_
    split <;> exact hshallow s hs
  | deleteSector _ => exact fun s hs => hshallow s (List.mem_of_mem_filter hs)
  | keepLabel _ _ => exact hshallow
  | renameOrganization _ _ _ => exact hshallow
  | deleteOrganization _ => exact fun s hs => hshallow s (List.mem_of_mem_filter hs)

/-- The level below any stored sector can be told, as long as there are not too many of them. -/
theorem Shallow.childOf?_isSome (h : r.Shallow) (hr : r.Sound)
    (hfew : r.lastSector.toInt < UInt32.size - 1) {parent : Sector} (hparent : parent ∈ r.sectors)
    (code label : String) (status : Status) :
    (NewSector.childOf? parent code label status).isSome = true := by
  have hdepth := h parent hparent
  have hle := Int64.le_iff_toInt_le.mp (hr.sectors_le parent hparent).2
  have hlt : parent.depth.toNat + 1 < UInt32.size := by
    have hsize : UInt32.size = 4294967296 := rfl
    omega
  rw [NewSector.childOf?, if_pos hlt]
  rfl

/-! ## Plans -/

section Plans

variable (hr : r.Sound) (hshallow : r.Shallow) (hfew : r.lastSector.toInt < UInt32.size - 1)
include hfew

theorem lastSector_ne_max : r.lastSector ≠ Int64.maxValue := by
  intro hmax
  rw [hmax, Int64.toInt_maxValue] at hfew
  have hsize : UInt32.size = 4294967296 := rfl
  omega

include hr hshallow

theorem refuses_planSector (org : OrganizationId) (label : String) (parentCode : Option String)
    (status : Status) : Refuses (r.planSector newCode tenant org label parentCode status) := by
  unfold planSector
  apply (refuses_chosenText _ _).bind
  intro label _
  apply (refuses_unlessTaken _ _ _ _).bind
  intro _ _
  have hfor : Refuses (r.parentFor tenant org parentCode) := by
    unfold parentFor
    split
    · exact refuses_need _ _ _
    · exact refuses_need _ _ _
  apply hfor.bind
  intro parent hparent
  obtain ⟨hmem, -⟩ := r.parentFor_eq_ok hparent
  obtain ⟨child, hchild⟩ := Option.isSome_iff_exists.mp
    (hshallow.childOf?_isSome hr hfew hmem newCode label status)
  have hbelow : childBelow parent newCode label status = .ok child := by
    rw [childBelow, hchild]
  rw [hbelow]
  -- the child belongs to the owner of its parent and lies one level below it
  obtain ⟨hdepth, rfl⟩ := NewSector.childOf?_eq_some hchild
  apply UniqueOnly.refuses
  exact uniqueOnly_insertSector (lastSector_ne_max hfew) (hr.owned parent hmem)
    (shaped_below hdepth parent.id)

/-- A plan fails for a reason that its caller is told of. -/
theorem refuses_plan (hroom : r.lastOrganization ≠ Int64.maxValue) (mutation : Mutation) :
    Refuses (r.plan newCode mutation) := by
  cases mutation with
  | createOrganization tenant draft =>
    apply (refuses_chosenText _ _).bind
    intro code _
    apply (refuses_chosenText _ _).bind
    intro label _
    apply (refuses_unlessTaken _ _ _ _).bind
    intro _ _
    apply (refuses_unlessTaken _ _ _ _).bind
    intro _ _
    apply ((uniqueOnly_insertOrganization _ hroom).refuses _ _ _).bind
    rintro ⟨org, added⟩ hadded
    obtain ⟨-, -, rfl, rfl⟩ := insertOrganization_eq_ok (carryOut_eq_ok hadded)
    refine ((uniqueOnly_insertSector ?_ ?_ (.inl ⟨rfl, rfl, rfl⟩)).refuses _ _ _).bind ?_
    · exact lastSector_ne_max hfew
    · exact ⟨_, mem_addOrganization, rfl⟩
    · exact fun _ _ => refuses_ok _
  | createSector tenant org label parentCode =>
    exact refuses_planSector hr hshallow hfew org label parentCode .active
  | createSectorIn tenant code draft =>
    apply (refuses_need _ _ _).bind
    intro o _
    apply (refuses_planSector hr hshallow hfew o.id draft.label draft.parentCode draft.status).bind
    rintro ⟨id, added⟩ _
    apply (refuses_need _ _ _).bind
    exact fun _ _ => refuses_ok _
  | renameSector tenant id label =>
    apply (refuses_chosenText _ _).bind
    intro label _
    apply (refuses_need _ _ _).bind
    intro s _
    apply (refuses_unlessTaken _ _ _ _).bind
    intro _ _
    apply ((uniqueOnly_renameSector id label).refuses _ _ _).bind
    exact fun _ _ => refuses_ok _
  | deleteSector tenant id =>
    apply (refuses_need _ _ _).bind
    exact fun _ _ => refuses_ok _
  | renameOrganization tenant code label =>
    apply (refuses_chosenText _ _).bind
    intro label _
    apply (refuses_need _ _ _).bind
    intro o _
    split
    · exact refuses_ok _
    · apply (refuses_unlessTaken _ _ _ _).bind
      intro _ _
      apply ((uniqueOnly_renameOrganization code label).refuses _ _ _).bind
      exact fun _ _ => refuses_ok _
  | deleteOrganization tenant code =>
    apply (refuses_need _ _ _).bind
    intro o ho
    -- when the organization goes, its sectors are gone
    obtain ⟨hmem, rfl, rfl⟩ := organization?_eq_some (need_eq_ok ho)
    have howners := (hr.dissolve hmem).hasOwners
    have hremoved : (r.removeSectors fun s => s.org == o.id).deleteOrganization o.tenant o.code =
        .ok (_, r.dissolve o) :=
      if_pos howners
    have hemptied : carryOut (r.deleteSectors fun s => s.org == o.id) .persistence =
        .ok (_, r.removeSectors fun s => s.org == o.id) := rfl
    rw [hemptied]
    show Refuses (carryOut _ .persistence >>= _)
    rw [hremoved]
    exact refuses_ok _

end Plans

end Records

/-! ## Queries -/

/-- What a query gets from records. -/
def Records.reply (r : Records) : (query : Query) → Except Failure query.Answer
  | .findOrganization tenant code => need .organization code (r.organization? tenant code)
  | .listOrganizations tenant => .ok (r.organizationsOf tenant)
  | .findSector tenant id => need .sector (toString id.toInt) (r.sector? tenant id)
  | .findSectorByCode tenant code => need .sector code (r.sectorByCode? tenant code)
  | .findRoot tenant org => need .rootSector (toString org.toInt) (r.root? tenant org)
  | .listSectors tenant org => .ok (r.sectorsOf tenant org)
  | .sectorTree tenant code => do
    let organization ← need .organization code (r.organization? tenant code)
    match SectorTree.build? (r.sectorsOf tenant organization.id) with
    | some tree => .ok tree
    | none => .error (.refused .rootNotFound)

namespace Session

open Records

/-- What a query ends in, and the session afterwards. -/
def inquire (s : Session) (query : Query) : Except Failure query.Answer × Session :=
  s.run (query.perform backend)

variable {s s' start : Session} {r : Records} {calls : List Call}

theorem run_found (entity : Entity) (key : String) (value : Option α) :
    s.run (Backend.found entity key value) = (need entity key value, s) := by
  cases value <;> rfl

/-- A query gets its answer from the records and changes nothing. -/
theorem inquire_eq (hdatabase : s.connection.database = r.database) (hr : r.Sound)
    (query : Query) : s.inquire query = (r.reply query, s) := by
  have hread := hr.readable
  cases query with
  | findOrganization tenant code =>
    have hfind := OrganizationRequest.answer_findByCode hdatabase tenant code
    exact (run_bind_ok (run_askOrganizations_ok hfind) _).trans (run_found _ _ _)
  | listOrganizations tenant =>
    exact run_askOrganizations_ok (OrganizationRequest.answer_findAll hdatabase tenant)
  | findSector tenant id =>
    have hfind := SectorRequest.answer_findById hdatabase hread tenant id
    exact (run_bind_ok (run_askSectors_ok hfind) _).trans (run_found _ _ _)
  | findSectorByCode tenant code =>
    have hfind := SectorRequest.answer_findByCode hdatabase hread tenant code
    exact (run_bind_ok (run_askSectors_ok hfind) _).trans (run_found _ _ _)
  | findRoot tenant org =>
    have hfind := SectorRequest.answer_findRoot hdatabase hread tenant org
    exact (run_bind_ok (run_askSectors_ok hfind) _).trans (run_found _ _ _)
  | listSectors tenant org =>
    exact run_askSectors_ok
      (SectorRequest.answer_findAllForOrganization hdatabase hread tenant org)
  | sectorTree tenant code =>
    have hfind := OrganizationRequest.answer_findByCode hdatabase tenant code
    show s.run (backend.sectorTree tenant code) = _
    rw [Backend.sectorTree, Backend.findOrganization, bind_assoc,
      run_bind_ok (run_askOrganizations_ok hfind), run_bind, run_found, Records.reply]
    cases r.organization? tenant code with
    | none => rfl
    | some o =>
      have hall := SectorRequest.answer_findAllForOrganization hdatabase hread tenant o.id
      show s.run (backend.askSectors (.findAllForOrganization tenant o.id) >>= _) = _
      rw [run_bind_ok (run_askSectors_ok hall)]
      show s.run (match SectorTree.build? _ with | some tree => _ | none => _) =
        (match SectorTree.build? _ with | some tree => _ | none => _, s)
      cases SectorTree.build? (r.sectorsOf tenant o.id) <;> rfl

theorem Holds.inquire_eq (h : s.Holds r) (query : Query) :
    s.inquire query = (r.reply query, s) :=
  Session.inquire_eq h.database h.sound query

/-- A query fails where a record is not there, or an organization has no tree. -/
theorem reply_error {query : Query} {failure : Failure} (h : r.reply query = .error failure) :
    (∃ entity key, failure = .refused (.notFound entity key)) ∨
      ∃ tenant code o, query = .sectorTree tenant code ∧ r.organization? tenant code = some o ∧
        SectorTree.build? (r.sectorsOf tenant o.id) = none ∧ failure = .refused .rootNotFound := by
  have hneed {α : Type} {entity : Entity} {key : String} {found : Option α}
      (hfound : need entity key found = .error failure) :
      ∃ entity key, failure = .refused (.notFound entity key) := by
    cases found with
    | none => cases hfound; exact ⟨entity, key, rfl⟩
    | some a => cases hfound
  cases query with
  | findOrganization tenant code => exact .inl (hneed h)
  | listOrganizations tenant => cases h
  | findSector tenant id => exact .inl (hneed h)
  | findSectorByCode tenant code => exact .inl (hneed h)
  | findRoot tenant org => exact .inl (hneed h)
  | listSectors tenant org => cases h
  | sectorTree tenant code =>
    rw [reply] at h
    cases ho : r.organization? tenant code with
    | none => rw [ho] at h; cases h; exact .inl ⟨_, _, rfl⟩
    | some o =>
      rw [ho] at h
      cases htree : SectorTree.build? (r.sectorsOf tenant o.id) with
      | none =>
        simp only [need, htree, bind, Except.bind] at h
        cases h
        exact .inr ⟨tenant, code, o, rfl, ho, htree, rfl⟩
      | some tree => simp only [need, htree, bind, Except.bind] at h; cases h

/-! ## Organizations without a root -/

/-- An organization of the records after a call was stored before, or has just been founded on its
root. -/
theorem stores_or_hasRoot {r' : Records} {newCode : String} {mutation : Mutation}
    {a : mutation.Answer} (h : r.Effect newCode mutation a r') {o : Organization}
    (ho : o ∈ r'.organizations) : r.Stores o ∨ ∃ id, r'.HasRoot o id := by
  cases h with
  | @createOrganization tenant draft code label _ _ hfounds =>
    rcases List.mem_append.mp ho with ho | ho
    · exact .inl (stores_of_mem ho)
    · have hroot : NewSector.stored _ (r.lastSector + 1) ∈
          (r.found (draft.named tenant code label)).sectors :=
        mem_addSector
      refine .inr ⟨_, _, ⟨hroot, ?_, rfl⟩, rfl⟩
      rw [List.mem_singleton.mp ho]
      rfl
  | createSector _ => exact .inl (stores_of_mem ho)
  | createSectorIn _ _ => exact .inl (stores_of_mem ho)
  | renameSector _ _ _ => exact .inl (stores_of_mem ho)
  | deleteSector _ => exact .inl (stores_of_mem ho)
  | keepLabel _ _ => exact .inl (stores_of_mem ho)
  | renameOrganization _ _ _ =>
    obtain ⟨x, hx, rfl⟩ := List.mem_map.mp ho
    refine .inl ⟨x, hx, ?_⟩
    split <;> exact ⟨rfl, rfl, rfl⟩
  | deleteOrganization _ => exact .inl (stores_of_mem (List.mem_of_mem_filter ho))

/-- The root of an organization was deleted in a run: by the call between `before` and `later`. -/
def Uprooted (start : Session) (calls : List Call) (o : Organization) : Prop :=
  ∃ before root count later s,
    calls = before ++ ⟨.deleteSector root.tenant root.id, .ok count⟩ :: later ∧
    start.Run before s ∧ s.records.IsRoot o root

theorem Uprooted.append {o : Organization} (h : Uprooted start calls o) (c : Call) :
    Uprooted start (calls ++ [c]) o := by
  obtain ⟨before, root, count, later, s, rfl, hrun, hroot⟩ := h
  exact ⟨before, root, count, later ++ [c], s, by simp, hrun, hroot⟩

/-- An organization that has no root has lost it in the run. -/
theorem Run.uprooted (hfresh : start.Fresh) (hrun : start.Run calls s) {o : Organization}
    (ho : s.records.Stores o) (hnone : ∀ root, ¬ s.records.IsRoot o root) :
    Uprooted start calls o := by
  induction hrun with
  | start =>
    obtain ⟨x, hx, -⟩ := ho
    rw [hfresh.holds.records] at hx
    cases hx
  | @call calls s hbefore mutation ih =>
    have hreachable : s.Reachable := ⟨start, calls, hfresh, hbefore⟩
    have hholds := hreachable.holds
    rcases hholds.call mutation with ⟨failure, -, hafter⟩ | ⟨a, r', hresult, heffect, hafter⟩
    · rw [hafter.records] at ho hnone
      exact (ih ho hnone).append _
    rw [hafter.records] at ho hnone
    have hlost : ∀ id, ¬ r'.HasRoot o id := fun id ⟨root, hroot, _⟩ => hnone root hroot
    have hstored : s.records.Stores o := by
      obtain ⟨x, hx, hid, htenant, hcode⟩ := ho
      rcases stores_or_hasRoot heffect hx with
        ⟨y, hy, hid', htenant', hcode'⟩ | ⟨id, root, hroot, _⟩
      · exact ⟨y, hy, hid'.trans hid, htenant'.trans htenant, hcode'.trans hcode⟩
      · exact absurd ⟨hroot.mem, hroot.org_eq.trans hid, hroot.hasParent_eq⟩ (hnone root)
    have hkeep : mutation ≠ .deleteOrganization o.tenant o.code := by
      intro hdelete
      obtain ⟨x, hx, hid, -⟩ := ho
      exact (heffect.dissolves hholds.sound hstored hdelete).2 x hx hid
    by_cases hroot : ∃ root, s.records.IsRoot o root
    · obtain ⟨root, hroot⟩ := hroot
      -- the root was there until the call that deletes it
      have hgone : ∃ tenant, mutation = .deleteSector tenant root.id := by
        by_contra hother
        exact hlost root.id
          ((heffect.hasRoot_iff hholds.sound hstored hkeep root.id).mpr
            ⟨⟨root, hroot, rfl⟩, hother⟩)
      obtain ⟨tenant, rfl⟩ := hgone
      have htenant : tenant = root.tenant := by
        cases heffect with
        | deleteSector hx =>
          obtain ⟨hmem, rfl, hid⟩ := sector?_eq_some hx
          rw [distinctBy_number hholds.sound.sectors_increasing _ hmem root hroot.mem hid]
      subst htenant
      rw [hresult]
      exact ⟨calls, root, a, [], s, rfl, hbefore, hroot⟩
    · exact (ih hstored fun root hroot' => hroot ⟨root, hroot'⟩).append _
  | @meanwhile calls s s' _ hdatabase _ ih =>
    have hsame : s'.records = s.records := congrArg Database.records hdatabase
    rw [hsame] at ho hnone
    exact ih ho hnone

/-! ## What can be relied on -/

/-- What a caller can rely on in a session that a run has led to. -/
structure Dependable (start : Session) (calls : List Call) (s : Session) : Prop where
  /-- A call that changes records succeeds, or tells what is wrong with it. -/
  call_ends : ∀ mutation, (∃ a, (s.call mutation).1 = .ok a) ∨
    ∃ error, (s.call mutation).1 = .error (.refused error) ∧ error.Expected
  /-- A query fails where a record is not there, or an organization has no tree. -/
  inquire_ends : ∀ query, (∃ a, (s.inquire query).1 = .ok a) ∨
    (∃ entity key, (s.inquire query).1 = .error (.refused (.notFound entity key))) ∨
      (s.inquire query).1 = .error (.refused .rootNotFound)
  /-- An organization has no tree only if its root was deleted. -/
  rootNotFound : ∀ query, (s.inquire query).1 = .error (.refused .rootNotFound) →
    ∃ tenant code o, query = .sectorTree tenant code ∧
      s.records.organization? tenant code = some o ∧
      Uprooted start calls o
  /-- What the database refuses in between is refused for the sake of uniqueness. -/
  call_noted : ∀ mutation, ∃ noted,
    s.watch [] (mutation.perform watched) = (((s.call mutation).1, noted), (s.call mutation).2) ∧
      ∀ error ∈ noted, ∃ detail, error = .ofFault (.notUnique detail)
  inquire_noted : ∀ query, ∃ noted,
    s.watch [] (query.perform watched) = (((s.inquire query).1, noted), (s.inquire query).2) ∧
      ∀ error ∈ noted, ∃ detail, error = .ofFault (.notUnique detail)
  /-- Every stored row is a record. -/
  organizations_read : ∃ t, s.connection.database.table? "organizations" = some t ∧
    ∀ row ∈ t.rows, ∃ o, Organization.ofCells (Schema.organizationColumns.map (t.cell row)) = .ok o
  sectors_read : ∃ t, s.connection.database.table? "sectors" = some t ∧
    ∀ row ∈ t.rows, ∃ x, Sector.ofCells (Schema.sectorColumns.map (t.cell row)) = .ok x

/-- What does not surface as an error of a store was noted for the sake of uniqueness. -/
theorem Surfaces.unique {noted : List StoreError} {ending : Except Failure α}
    (h : Surfaces noted ending)
    (hending : ∀ error, ending ≠ .error (.refused (.persistence error))) :
    ∀ error ∈ noted, ∃ detail, error = .ofFault (.notUnique detail) := by
  intro error herror
  cases hunique : error.uniqueDetail? with
  | none => exact absurd (h error herror hunique) (hending error)
  | some detail =>
    refine ⟨detail, ?_⟩
    unfold StoreError.uniqueDetail? Fault.uniqueDetail? at hunique
    split at hunique
    · split at hunique
      · cases hunique
        rfl
      · cases hunique
    · cases hunique

/-- Where the database can be written, a call fails as its plan does. -/
theorem Holds.plan_of_error (h : s.Holds r) (hfree : s.connection.writeFault? .main = none)
    {mutation : Mutation} {failure : Failure} (hcall : (s.call mutation).1 = .error failure) :
    r.plan (s.codes s.codesTaken) mutation = .error failure := by
  have hsettled := call_settled h.idle h.database h.sound mutation
  rw [hcall] at hsettled
  generalize r.plan (s.codes s.codesTaken) mutation = plan at hsettled
  generalize (s.call mutation).2.connection = after at hsettled
  cases hsettled with
  | refused _ _ _ => rfl
  | blocked _ _ _ _ hfault => exact absurd hfree hfault

theorem Reachable.shallow (h : s.Reachable) : s.records.Shallow := by
  refine (h.records_induction (P := Shallow) ?_ fun _ _ _ _ _ hr hp heffect => ?_).2
  · intro x hx
    cases hx
  · exact heffect.shallow hr hp

/-- In a session that a run from a freshly migrated database has led to, where no other client holds
the right to write and nothing else keeps this one from writing, and as long as there are numbers
left and fewer sectors have been created than there are depths, calls end in an answer or tell
what is wrong with them. -/
theorem Run.dependable (hfresh : start.Fresh) (hrun : start.Run calls s)
    (hcontended : s.connection.contended = false) (hobstacle : s.connection.obstacle = none)
    (hroom : s.records.lastOrganization ≠ Int64.maxValue)
    (hfew : s.records.lastSector.toInt < UInt32.size - 1) : Dependable start calls s := by
  have hreachable : s.Reachable := ⟨start, calls, hfresh, hrun⟩
  have hholds := hreachable.holds
  have hfree : s.connection.writeFault? .main = none := by
    simp [Connection.writeFault?, hcontended, hobstacle]
  have hcall (mutation : Mutation) : Refuses (s.call mutation).1 := by
    intro failure hfailure
    exact refuses_plan hholds.sound hreachable.shallow hfew hroom mutation failure
      (hholds.plan_of_error hfree hfailure)
  exact {
    call_ends := by
      intro mutation
      cases hresult : (s.call mutation).1 with
      | ok a => exact .inl ⟨a, rfl⟩
      | error failure =>
        obtain ⟨error, rfl, hexpected⟩ := hcall mutation failure hresult
        exact .inr ⟨error, rfl, hexpected⟩
    inquire_ends := by
      intro query
      rw [hholds.inquire_eq query]
      cases hresult : s.records.reply query with
      | ok a => exact .inl ⟨a, rfl⟩
      | error failure =>
        rcases reply_error hresult with ⟨entity, key, rfl⟩ | ⟨_, _, _, _, _, _, rfl⟩
        · exact .inr (.inl ⟨entity, key, rfl⟩)
        · exact .inr (.inr rfl)
    rootNotFound := by
      intro query hnone
      rw [hholds.inquire_eq query] at hnone
      rcases reply_error hnone with ⟨_, _, h⟩ | ⟨tenant, code, o, rfl, ho, htree, _⟩
      · cases h
      refine ⟨tenant, code, o, rfl, ho, ?_⟩
      obtain ⟨hmem, rfl, rfl⟩ := organization?_eq_some ho
      exact hrun.uprooted hfresh (stores_of_mem hmem)
        ((build?_sectorsOf_eq_none hholds.sound hreachable.lineage hmem).mp htree)
    call_noted := by
      intro mutation
      obtain ⟨noted, hwatch, hsurfaces⟩ := tells_congruent.perform mutation s []
      refine ⟨noted, hwatch, hsurfaces.unique fun cause hcause => ?_⟩
      obtain ⟨error, herror, hexpected⟩ := hcall mutation _ hcause
      cases herror
      exact hexpected
    inquire_noted := by
      intro query
      obtain ⟨noted, hwatch, hsurfaces⟩ := tells_congruent.inquire query s []
      refine ⟨noted, hwatch, hsurfaces.unique fun cause hcause => ?_⟩
      rw [← inquire, hholds.inquire_eq query] at hcause
      rcases reply_error hcause with ⟨_, _, h⟩ | ⟨_, _, _, _, _, _, h⟩ <;> cases h
    organizations_read := by
      refine ⟨s.records.organizationTable, ?_, List.forall_mem_map.mpr fun o _ => ?_⟩
      · rw [hholds.database]
        exact s.records.table?_database.1
      · exact ⟨o, o.ofCells_row⟩
    sectors_read := by
      refine ⟨s.records.sectorTable, ?_, List.forall_mem_map.mpr fun x hx => ?_⟩
      · rw [hholds.database]
        exact s.records.table?_database.2
      · exact ⟨x, x.ofCells_row (hholds.sound.readable x hx)⟩ }

open Records in
/-- An organization is created and loses its root, and then has no tree. -/
theorem dependable_uprooted : ∃ start calls s, start.Fresh ∧ start.Run calls s ∧
    (s.inquire (.sectorTree 1 "acme")).1 = .error (.refused .rootNotFound) ∧
    Uprooted start calls acme := by
  have hplan : founded.plan "" (.deleteSector 1 1) = .ok (1, ofAcme [] 1) := rfl
  have hreached := reached_founded.next hplan
  obtain ⟨start, calls, hfresh, hrun⟩ := hreached.reachable ""
  have hrecords : ((ofAcme [] 1).session "").records = ofAcme [] 1 :=
    hreached.sound.records_session
  have hdependable := hrun.dependable hfresh rfl rfl
    (by rw [hrecords]; decide) (by rw [hrecords]; decide)
  have hnone : (((ofAcme [] 1).session "").inquire (.sectorTree 1 "acme")).1 =
      .error (.refused .rootNotFound) := by
    rw [(hreached.sound.session_holds "").inquire_eq]
    rfl
  obtain ⟨tenant, code, o, hquery, ho, huprooted⟩ := hdependable.rootNotFound _ hnone
  cases hquery
  rw [hrecords] at ho
  cases ho
  exact ⟨start, calls, _, hfresh, hrun, hnone, huprooted⟩

end Session
end SectorForest
