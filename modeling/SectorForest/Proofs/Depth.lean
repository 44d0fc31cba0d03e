import SectorForest.Proofs.Refusals
import SectorForest.Proofs.Unhindered

/-!
# How deep sectors lie

A sector lies one level below its parent, also where the parent has been deleted since, so the
levels of the sectors that are left do not bound how deep they lie. What does is how many sectors
have been stored: every depth is less than a number that the table has given out, and the table
gives out one number for each sector that stays. Numbers of sectors whose insertion is undone are
taken back.

`Session.TroubledRun` counts the sectors stored in a run any of whose steps may fail, and
`Session.TroubledRun.depths` draws the conclusion for the level of the next child.
-/

namespace SectorForest

open Storage

variable {α β : Type}

namespace Records

variable {r r' : Records} {newCode : String}

/-! ## Plans that go too deep -/

/-- A plan ends in an answer or a refusal. -/
def Told (plan : Except Failure α) : Prop :=
  plan ≠ .error .tooDeep

theorem told_ok (a : α) : Told (.ok a) :=
  nofun

theorem Told.bind {x : Except Failure α} {f : α → Except Failure β} (h : Told x)
    (hf : ∀ a, Told (f a)) : Told (x >>= f) := by
  cases x with
  | error failure => exact fun heq => h (congrArg _ (Except.error.inj heq))
  | ok a => exact hf a

theorem told_mapError {ε : Type} {x : Except ε α} {f : ε → ServiceError} :
    Told (x.mapError fun error => .refused (f error)) := by
  cases x <;> nofun

theorem told_need (entity : Entity) (key : String) (found : Option α) :
    Told (need entity key found) := by
  cases found <;> nofun

theorem told_unlessTaken (taken : Bool) (error : ServiceError) :
    Told (unlessTaken taken error) := by
  cases taken <;> nofun

theorem told_chosenText (field : TextField) (text : String) : Told (chosenText field text) :=
  told_mapError

theorem told_carryOut (change : Except Fault (α × Records)) (onError : StoreError → ServiceError) :
    Told (carryOut change onError) :=
  told_mapError

/-- A plan that goes too deep does so behind a part of it that does not. -/
theorem Told.tooDeep_bind {x : Except Failure α} {f : α → Except Failure β} (h : Told x)
    (hbind : x >>= f = .error .tooDeep) : ∃ a, x = .ok a ∧ f a = .error .tooDeep := by
  cases x with
  | error failure => exact absurd hbind fun heq => h (congrArg _ (Except.error.inj heq))
  | ok a => exact ⟨a, rfl, hbind⟩

theorem told_parentFor (tenant : TenantId) (org : OrganizationId) (code : Option String) :
    Told (r.parentFor tenant org code) := by
  unfold parentFor
  split
  · exact told_need _ _ _
  · exact told_need _ _ _

theorem told_childBelow {parent : Sector} (hdepth : parent.depth.toNat + 1 < UInt32.size)
    (code label : String) (status : Status) : Told (childBelow parent code label status) := by
  rw [childBelow, NewSector.childOf?, if_pos hdepth]
  exact told_ok _

/-- The level below a stored sector cannot be told. -/
def Deepest (r : Records) : Prop :=
  ∃ parent ∈ r.sectors, UInt32.size ≤ parent.depth.toNat + 1

theorem deepest_of_planSector {tenant : TenantId} {org : OrganizationId} {label : String}
    {parentCode : Option String} {status : Status}
    (h : r.planSector newCode tenant org label parentCode status = .error .tooDeep) :
    r.Deepest := by
  obtain ⟨text, -, h⟩ := (told_chosenText _ _).tooDeep_bind h
  obtain ⟨_, -, h⟩ := (told_unlessTaken _ _).tooDeep_bind h
  obtain ⟨parent, hparent, h⟩ := (told_parentFor _ _ _).tooDeep_bind h
  refine ⟨parent, (r.parentFor_eq_ok hparent).1, Nat.le_of_not_lt fun hdepth => ?_⟩
  exact (told_childBelow hdepth _ _ _).bind (fun _ => told_carryOut _ _) h

/-- Only a new sector can lie too deep. -/
theorem deepest_of_plan {mutation : Mutation} (h : r.plan newCode mutation = .error .tooDeep) :
    r.Deepest := by
  cases mutation with
  | createSector tenant org label parentCode => exact deepest_of_planSector h
  | createSectorIn tenant code draft =>
    obtain ⟨o, -, h⟩ := (told_need _ _ _).tooDeep_bind h
    cases hplan : r.planSector newCode tenant o.id draft.label draft.parentCode draft.status with
    | error failure =>
      rw [hplan] at h
      cases h
      exact deepest_of_planSector hplan
    | ok added =>
      rw [hplan] at h
      exact absurd h ((told_need _ _ _).bind fun _ => told_ok _)
  | createOrganization tenant draft =>
    refine absurd h ((told_chosenText _ _).bind fun _ => (told_chosenText _ _).bind fun _ => ?_)
    refine (told_unlessTaken _ _).bind fun _ => (told_unlessTaken _ _).bind fun _ => ?_
    exact (told_carryOut _ _).bind fun _ => (told_carryOut _ _).bind fun _ => told_ok _
  | renameSector tenant id label =>
    refine absurd h ((told_chosenText _ _).bind fun _ => (told_need _ _ _).bind fun _ => ?_)
    exact (told_unlessTaken _ _).bind fun _ => (told_carryOut _ _).bind fun _ => told_ok _
  | deleteSector tenant id => exact absurd h ((told_need _ _ _).bind fun _ => told_carryOut _ _)
  | renameOrganization tenant code label =>
    refine absurd h ((told_chosenText _ _).bind fun _ => (told_need _ _ _).bind fun o => ?_)
    split
    · exact told_ok _
    · exact (told_unlessTaken _ _).bind fun _ => (told_carryOut _ _).bind fun _ => told_ok _
  | deleteOrganization tenant code =>
    refine absurd h ((told_need _ _ _).bind fun _ => ?_)
    exact (told_carryOut _ _).bind fun _ => (told_carryOut _ _).bind fun _ => told_ok _

/-! ## Sectors that are new -/

/-- The sectors whose numbers no sector had before. -/
def newcomers (r r' : Records) : List Sector :=
  r'.sectors.filter fun s => !r.sectors.any (·.id == s.id)

/-- No sectors are new among those that were there, whatever else of them has changed. -/
theorem newcomers_eq_nil (h : ∀ s ∈ r'.sectors, ∃ x ∈ r.sectors, x.id = s.id) :
    r.newcomers r' = [] := by
  refine List.filter_eq_nil_iff.mpr fun s hs => ?_
  obtain ⟨x, hx, hid⟩ := h s hs
  simpa using ⟨x, hx, hid⟩

theorem newcomers_addSector (hr : r.Sound) (hroom : r.lastSector ≠ Int64.maxValue)
    (new : NewSector) : r.newcomers (r.addSector new) = [new.stored (r.lastSector + 1)] := by
  have hold : r.sectors.filter (fun s => !r.sectors.any (·.id == s.id)) = [] :=
    newcomers_eq_nil fun s hs => ⟨s, hs, rfl⟩
  have hfresh : ∀ x ∈ r.sectors, x.id ≠ r.lastSector + 1 := by
    intro x hx heq
    have hle := Int64.le_iff_toInt_le.mp (hr.sectors_le x hx).2
    rw [heq, toInt_next hroom] at hle
    omega
  rw [newcomers, addSector, List.filter_append, hold, List.nil_append]
  refine List.filter_eq_self.mpr fun s hs => ?_
  have hid : (new.stored (r.lastSector + 1)).id = r.lastSector + 1 := rfl
  rw [List.mem_singleton.mp hs]
  simpa [hid] using hfresh

/-- The last number that a sector was given counts the sectors that are new. -/
theorem Effect.lastSector {mutation : Mutation} {a : mutation.Answer}
    (h : r.Effect newCode mutation a r') (hr : r.Sound) :
    r'.lastSector.toInt = r.lastSector.toInt + (r.newcomers r').length := by
  have hgrown {child : NewSector} (hroom : r.lastSector ≠ Int64.maxValue) :
      (r.addSector child).lastSector.toInt =
        r.lastSector.toInt + (r.newcomers (r.addSector child)).length := by
    rw [newcomers_addSector hr hroom]
    exact toInt_next hroom
  have hkept {r' : Records} (hlast : r'.lastSector = r.lastSector)
      (hsectors : ∀ s ∈ r'.sectors, ∃ x ∈ r.sectors, x.id = s.id) :
      r'.lastSector.toInt = r.lastSector.toInt + (r.newcomers r').length := by
    rw [newcomers_eq_nil hsectors, hlast]
    simp
  cases h with
  | createOrganization _ _ hfounds => exact hgrown hfounds.sector_room
  | createSector hgrows => exact hgrown hgrows.room
  | createSectorIn _ hgrows => exact hgrown hgrows.room
  | renameSector _ _ _ =>
    refine hkept rfl (List.forall_mem_map.mpr fun s hs => ⟨s, hs, ?_⟩)
    split <;> rfl
  | deleteSector _ => exact hkept rfl fun s hs => ⟨s, List.mem_of_mem_filter hs, rfl⟩
  | keepLabel _ _ => exact hkept rfl fun s hs => ⟨s, hs, rfl⟩
  | renameOrganization _ _ _ => exact hkept rfl fun s hs => ⟨s, hs, rfl⟩
  | deleteOrganization _ => exact hkept rfl fun s hs => ⟨s, List.mem_of_mem_filter hs, rfl⟩

end Records

namespace Session

variable {start s s' : Session} {r : Records} {n : Nat}

/-! ## Calls any of whose steps may fail -/

theorem holds_freed : s.freed.Holds r ↔ s.Holds r :=
  ⟨fun h => ⟨h.idle, h.database, h.sound⟩, fun h => ⟨h.idle, h.database, h.sound⟩⟩

/-- All calls but the one that reads what it has written leave no trace where they fail. -/
theorem Holds.traceless (h : s.Holds r) (faults : Faults) {mutation : Mutation}
    (hlast : ∀ tenant code draft, mutation ≠ .createSectorIn tenant code draft) :
    Traceless s.connection (mutation.perform (failing faults)) := by
  cases mutation with
  | createOrganization tenant draft => exact traceless_createOrganization h.idle
  | createSector tenant org label parentCode => exact traceless_createSector h.idle
  | createSectorIn tenant code draft => exact absurd rfl (hlast tenant code draft)
  | renameSector tenant id label => exact traceless_renameSector h.idle h.database h.sound
  | deleteSector tenant id => exact traceless_deleteSector h.idle
  | renameOrganization tenant code label =>
    exact traceless_renameOrganization h.idle h.database h.sound
  | deleteOrganization tenant code => exact traceless_deleteOrganization h.idle

/-- A call that fails changes nothing, or it has stored a sector and cannot read it. -/
theorem Holds.callFailing_error (h : s.Holds r) {faults : Faults} {mutation : Mutation}
    {failure : Failure} (hfails : (s.callFailing faults mutation).1 = .error failure) :
    (s.callFailing faults mutation).2.Holds r ∨ ∃ newCode mutation' a r',
      r.Effect newCode mutation' a r' ∧ (s.callFailing faults mutation).2.Holds r' := by
  have hsame {after : Session} (hafter : after.connection = s.connection) : after.Holds r :=
    ⟨hafter ▸ h.idle, hafter ▸ h.database, h.sound⟩
  by_cases hlast : ∃ tenant code draft, mutation = .createSectorIn tenant code draft
  · obtain ⟨tenant, code, draft, rfl⟩ := hlast
    have hreported : (s.attempt 0 ((Mutation.createSectorIn tenant code draft).perform
        (failing faults))).1 = _ ∧ _ := attempt_reported "sector_create" _
    obtain ⟨hending, hafter⟩ := hreported
    obtain rfl : s.records = r := h.records
    rcases creation_fails h rfl ((congrArg Prod.fst hending).symm.trans hfails) with hkept | hlate
    · exact .inl (hsame (hafter.trans hkept))
    · obtain ⟨_, o, parent, child, -, -, ho, hgrows, hheld⟩ := hlate
      refine .inr ⟨_, _, _, _, .createSectorIn ho hgrows, ?_, ?_, hheld.sound⟩
      · exact (congrArg Connection.saved hafter).trans hheld.idle
      · exact (congrArg Connection.database hafter).trans hheld.database
  · have hends := (h.traceless faults fun tenant code draft heq =>
      hlast ⟨tenant, code, draft, heq⟩).ends s 0 rfl
    rw [show (s.attempt 0 (mutation.perform (failing faults))).1.1 = .error failure from hfails]
      at hends
    exact .inl (hsame hends)

/-- Whatever steps fail, a call changes nothing or has one of the effects. -/
theorem Holds.callFailing (h : s.Holds r) (faults : Faults) (mutation : Mutation) :
    (s.callFailing faults mutation).2.Holds r ∨ ∃ newCode mutation' a r',
      r.Effect newCode mutation' a r' ∧ (s.callFailing faults mutation).2.Holds r' := by
  cases hresult : (s.callFailing faults mutation).1 with
  | error failure => exact h.callFailing_error hresult
  | ok a =>
    have hcall := (s.call_freed faults mutation).resolve_left fun ⟨_, herror⟩ => by
      rw [hresult] at herror
      cases herror
    rw [hresult] at hcall
    obtain ⟨r', heffect, hafter⟩ := (holds_freed.mpr h).call_ok hcall
    exact .inr ⟨_, _, _, _, heffect, holds_freed.mp hafter⟩

/-- Where no sector lies on the deepest level, no call goes too deep, whatever steps fail. -/
theorem Holds.callFailing_ne_tooDeep (h : s.Holds r) (hdeepest : ¬r.Deepest) (faults : Faults)
    (mutation : Mutation) : (s.callFailing faults mutation).1 ≠ .error .tooDeep := by
  intro hresult
  have hcall := (s.call_freed faults mutation).resolve_left fun ⟨_, herror⟩ => by
    rw [hresult] at herror
    cases herror
  have htooDeep : (s.freed.call mutation).1 = .error .tooDeep := by
    rw [hcall, hresult]
  exact hdeepest (Records.deepest_of_plan ((holds_freed.mpr h).plan_of_error rfl htooDeep))

/-! ## Runs any of whose steps may fail -/

/-- The sessions that a session becomes by calls any of whose steps may fail, with the number of
sectors that were stored on the way, whatever the calls ended in. -/
inductive TroubledRun (start : Session) : Nat → Session → Prop
  | start : TroubledRun start 0 start
  | call {n : Nat} {s : Session} (h : TroubledRun start n s) (faults : Faults)
    (mutation : Mutation) :
    TroubledRun start
      (n + (s.records.newcomers (s.callFailing faults mutation).2.records).length)
      (s.callFailing faults mutation).2
  /-- Between calls, anything may become another but the records. -/
  | meanwhile {n : Nat} {s s' : Session} (h : TroubledRun start n s)
    (hdatabase : s'.connection.database = s.connection.database)
    (hsaved : s'.connection.saved = s.connection.saved) :
    TroubledRun start n s'

/-- A run is one none of whose steps fail of their own. -/
theorem Run.troubled {calls : List Call} (h : start.Run calls s) :
    ∃ n, start.TroubledRun n s := by
  induction h with
  | start => exact ⟨0, .start⟩
  | @call calls s h mutation ih =>
    obtain ⟨n, hrun⟩ := ih
    have hcall := hrun.call {} mutation
    rw [callFailing_none] at hcall
    exact ⟨_, hcall⟩
  | meanwhile _ hdatabase hsaved ih =>
    obtain ⟨n, hrun⟩ := ih
    exact ⟨n, hrun.meanwhile hdatabase hsaved⟩

/-- The last number that a sector was given counts the sectors stored in a run, and no sector lies
deeper than its own number. -/
theorem TroubledRun.counts (hrun : start.TroubledRun n s) (hstart : start.Holds r)
    (hshallow : r.Shallow) (hlast : r.lastSector = 0) :
    ∃ r', s.Holds r' ∧ r'.Shallow ∧ r'.lastSector.toInt = n := by
  induction hrun with
  | start => exact ⟨r, hstart, hshallow, by rw [hlast]; rfl⟩
  | @call n s h faults mutation ih =>
    obtain ⟨r', hholds, hshallow, hcount⟩ := ih
    rw [hholds.records]
    rcases hholds.callFailing faults mutation with hafter | ⟨_, _, _, r'', heffect, hafter⟩
    · refine ⟨r', hafter, hshallow, ?_⟩
      rw [hafter.records, Records.newcomers_eq_nil fun x hx => ⟨x, hx, rfl⟩]
      exact hcount
    · refine ⟨r'', hafter, heffect.shallow hholds.sound hshallow, ?_⟩
      rw [hafter.records, heffect.lastSector hholds.sound, hcount]
      rfl
  | meanwhile _ hdatabase hsaved ih =>
    obtain ⟨r', hholds, hp⟩ := ih
    exact ⟨r', ⟨hsaved.trans hholds.idle, hdatabase.trans hholds.database, hholds.sound⟩, hp⟩

/-- From a freshly migrated database on, whatever steps of the calls fail, whatever is deleted and
whatever is undone: every sector lies at a depth below its number and below the number of sectors
that were stored. So as long as these are fewer than there are depths, the level below any sector
can be told, and no call ends because it cannot. -/
theorem TroubledRun.depths (hfresh : start.Fresh) (hrun : start.TroubledRun n s) :
    (∀ x ∈ s.records.sectors, (x.depth.toNat : Int) < x.id.toInt ∧ x.depth.toNat < n) ∧
      (n < UInt32.size →
        (∀ parent ∈ s.records.sectors, ∀ code label status, ∃ child,
          NewSector.childOf? parent code label status = some child ∧
            child.depth.toNat = parent.depth.toNat + 1) ∧
        ∀ faults mutation, (s.callFailing faults mutation).1 ≠ .error .tooDeep) := by
  obtain ⟨r, hholds, hshallow, hcount⟩ := hrun.counts hfresh.holds (fun x hx => by cases hx) rfl
  rw [hholds.records]
  have hdepth : ∀ x ∈ r.sectors, x.depth.toNat < n := by
    intro x hx
    have hlt := hshallow x hx
    have hle := Int64.le_iff_toInt_le.mp (hholds.sound.sectors_le x hx).2
    omega
  refine ⟨fun x hx => ⟨hshallow x hx, hdepth x hx⟩, fun hfew => ⟨?_, ?_⟩⟩
  · intro parent hparent code label status
    have hlt : parent.depth.toNat + 1 < UInt32.size :=
      Nat.lt_of_le_of_lt (hdepth parent hparent) hfew
    exact ⟨_, if_pos hlt, toNat_below hlt⟩
  · refine hholds.callFailing_ne_tooDeep ?_
    rintro ⟨parent, hparent, hdeep⟩
    have hlt := hdepth parent hparent
    omega

open Records in
/-- The root of an organization is taken back when its transaction cannot be closed, and is created
once more under the same number. A chain of three sectors is created below it and the first two are
deleted, which leaves the third without a parent, and another sector is created below that one: it
lies as deep as the five sectors that were stored allow. -/
theorem depths_orphaned :
    let start := { ({} : Records).session "" with codes := (["n", "f", "p", "c"].getD · "") }
    let create : Mutation := .createOrganization 1 { code := "acme", label := "Acme", kind := .bu }
    let taken := (start.callFailing (.only 5 .full) create).2
    let founded := (taken.callFailing {} create).2
    let north := (founded.callFailing {} (.createSector 1 1 "North" none)).2
    let farNorth := (north.callFailing {} (.createSector 1 1 "Far North" (some "n"))).2
    let pole := (farNorth.callFailing {} (.createSector 1 1 "Pole" (some "f"))).2
    let orphaned := (pole.callFailing {} (.deleteSector 1 2)).2
    let camp := (orphaned.callFailing {} (.createSector 1 1 "Camp" (some "p"))).2
    start.Fresh ∧
      (start.callFailing (.only 5 .full) create).1 = .error (.refused (.ofFault .full)) ∧
      start.TroubledRun 5 camp ∧
      camp.records.sectors = [acmeRoot, Records.pole, acmeBranch Records.pole "c" "Camp"] ∧
      (acmeBranch Records.pole "c" "Camp").depth = 4 ∧
      (acmeBranch Records.pole "c" "Camp").depth.toNat < 5 ∧
      ∀ faults mutation, (camp.callFailing faults mutation).1 ≠ .error .tooDeep := by
  intro start create taken founded north farNorth pole orphaned camp
  have hfresh : start.Fresh := ⟨Schema.migrated_eq.symm, rfl⟩
  have hrun : start.TroubledRun 5 camp := by
    have hstart : start.TroubledRun 0 start := .start
    have hfounded := (hstart.call (.only 5 .full) create).call {} create
    have hnorth := hfounded.call {} (.createSector 1 1 "North" none)
    have hfarNorth := hnorth.call {} (.createSector 1 1 "Far North" (some "n"))
    have hpole := hfarNorth.call {} (.createSector 1 1 "Pole" (some "f"))
    have horphaned := hpole.call {} (.deleteSector 1 2)
    have hcamp := horphaned.call {} (.createSector 1 1 "Camp" (some "p"))
    refine Eq.subst (motive := fun n => start.TroubledRun n camp) ?_ hcamp
    decide +kernel
  have hsectors : camp.records.sectors =
      [acmeRoot, Records.pole, acmeBranch Records.pole "c" "Camp"] := by
    decide +kernel
  obtain ⟨hdepths, hcalls⟩ := TroubledRun.depths hfresh hrun
  have hcamp := (hdepths (acmeBranch Records.pole "c" "Camp") (by simp [hsectors])).2
  exact ⟨hfresh, by decide +kernel, hrun, hsectors, rfl, hcamp, (hcalls (by decide)).2⟩

end Session

end SectorForest
