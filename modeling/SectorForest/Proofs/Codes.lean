import SectorForest.Proofs.Congruence
import SectorForest.Proofs.Tenancy

/-!
# The codes that a call takes

A session has a source of codes for new sectors, of which a call takes one at most: when the label
of the new sector is free and its parent is found, `Records.takesCode`. All other calls leave the
source alone. So what the next codes are can be told from the records that the calls have met.
-/

namespace SectorForest

open Storage

variable {α β : Type}

namespace Session

/-! ## What takes no code -/

/-- Whatever session it is run from, an action takes no codes. -/
def KeepsCodes (action : Serving (StateM Session) α) : Prop :=
  ∀ s : Session, (s.run action).2.codes = s.codes ∧ (s.run action).2.codesTaken = s.codesTaken

variable {action : Serving (StateM Session) α} {next : α → Serving (StateM Session) β}

theorem KeepsCodes.bind (h : KeepsCodes action) (hnext : ∀ a, KeepsCodes (next a)) :
    KeepsCodes (action >>= next) := by
  intro s
  refine run_bind_invariant (P := fun s' => s'.codes = s.codes ∧ s'.codesTaken = s.codesTaken)
    (h s) fun a s' ⟨hcodes, htaken⟩ => ?_
  exact ⟨(hnext a s').1.trans hcodes, (hnext a s').2.trans htaken⟩

theorem KeepsCodes.ending (h : KeepsCodes action) : KeepsCodes (ending action) := by
  intro s
  rw [run_ending]
  exact h s

/-- The backend over a session that always gives the same code. What never asks for one does the
same over it. -/
def codeless : Backend (StateM Session) :=
  { backend with newCode := pure "" }

theorem keepsCodes_congruent :
    Backend.Congruent (fun action _ => KeepsCodes action) codeless codeless :=
  Backend.Elementary.congruent
    { pure := fun _ _ => ⟨rfl, rfl⟩
      throw := fun _ _ => ⟨rfl, rfl⟩
      bind := fun h hnext => h.bind hnext
      ending := fun h => h.ending
      organizations := fun _ _ => ⟨rfl, rfl⟩
      sectors := fun _ _ => ⟨rfl, rfl⟩
      transact := fun _ _ => ⟨rfl, rfl⟩
      newCode := fun _ => ⟨rfl, rfl⟩
      emit := fun _ _ => ⟨rfl, rfl⟩ }

theorem reporting_codes (operation : String) (p : Except Failure α × Session) :
    (reporting operation p).2.codes = p.2.codes ∧
      (reporting operation p).2.codesTaken = p.2.codesTaken := by
  obtain ⟨⟨_ | _⟩ | a, s⟩ := p <;> exact ⟨rfl, rfl⟩

/-! ## The calls -/

theorem keepsCodes_findSector (tenant : TenantId) (id : SectorId) :
    KeepsCodes (backend.findSector tenant id) :=
  keepsCodes_congruent.findSector tenant id

theorem keepsCodes_createOrganization (tenant : TenantId) (draft : OrganizationDraft) :
    KeepsCodes (backend.createOrganization tenant draft) :=
  keepsCodes_congruent.createOrganization tenant draft

theorem keepsCodes_renameSector (tenant : TenantId) (id : SectorId) (label : String) :
    KeepsCodes (backend.renameSector tenant id label) :=
  keepsCodes_congruent.renameSector tenant id label

theorem keepsCodes_deleteSector (tenant : TenantId) (id : SectorId) :
    KeepsCodes (backend.deleteSector tenant id) :=
  keepsCodes_congruent.deleteSector tenant id

theorem keepsCodes_renameOrganization (tenant : TenantId) (code label : String) :
    KeepsCodes (backend.renameOrganization tenant code label) :=
  keepsCodes_congruent.renameOrganization tenant code label

theorem keepsCodes_deleteOrganization (tenant : TenantId) (code : String) :
    KeepsCodes (backend.deleteOrganization tenant code) :=
  keepsCodes_congruent.deleteOrganization tenant code

/-! ## Creating sectors -/

variable {s : Session} {r : Records} {tenant : TenantId} {org : OrganizationId}

/-- From one session to another, one code is taken where `taken` says so, and none otherwise. -/
def TakesCode (taken : Bool) (s s' : Session) : Prop :=
  s'.codes = s.codes ∧ s'.codesTaken = s.codesTaken + taken.toNat

theorem KeepsCodes.takesCode (h : KeepsCodes action) : TakesCode false s (s.run action).2 :=
  h s

/-- What is done after a code has been taken or not takes no further one. -/
theorem TakesCode.bind {taken : Bool} (h : TakesCode taken s (s.run action).2)
    (hnext : ∀ a, KeepsCodes (next a)) : TakesCode taken s (s.run (action >>= next)).2 := by
  refine run_bind_invariant h fun a s' ⟨hcodes, htaken⟩ => ?_
  exact ⟨(hnext a s').1.trans hcodes, (hnext a s').2.trans htaken⟩

theorem run_findParent (h : s.Holds r) (parentCode : Option String) :
    s.run (backend.findParent tenant org parentCode) =
      (r.parentFor tenant org parentCode, s) := by
  have hread := h.sound.readable
  rw [Backend.findParent, Records.parentFor]
  cases parentCode? parentCode with
  | some code =>
    have hfind := SectorRequest.answer_findByCode h.database hread tenant code
    exact (run_bind_ok (run_askSectors_ok hfind) _).trans (run_found _ _ _)
  | none =>
    have hfind := SectorRequest.answer_findRoot h.database hread tenant org
    exact (run_bind_ok (run_askSectors_ok hfind) _).trans (run_found _ _ _)

theorem takesCode_addSector (h : s.Holds r) (label : String) (parentCode : Option String)
    (status : Status) :
    TakesCode (r.places tenant org label parentCode) s
      (s.run (backend.addSector tenant org label parentCode status)).2 := by
  rw [Backend.addSector, Backend.normalized, Records.places]
  cases normalize .label label with
  | error error => exact ⟨rfl, rfl⟩
  | ok text =>
    have howner := SectorRequest.answer_findByLabel h.database tenant text
    rw [pure_bind, run_bind_ok (run_askSectors_ok howner)]
    dsimp only
    cases r.sectorByLabel? tenant text with
    | some owner => exact ⟨rfl, rfl⟩
    | none =>
      show TakesCode _ s (s.run (backend.findParent tenant org parentCode >>= _)).2
      rw [run_bind, run_findParent h]
      cases r.parentFor tenant org parentCode with
      | error failure => exact ⟨rfl, rfl⟩
      | ok parent =>
        dsimp only
        rw [run_bind_ok run_newCode]
        -- whatever comes of the insert, the code is taken
        cases NewSector.childOf? parent (s.codes s.codesTaken) text status with
        | none => exact ⟨rfl, rfl⟩
        | some child =>
          dsimp only
          rw [run_askSectors]
          exact ⟨rfl, rfl⟩

theorem takesCode_reported {taken : Bool} (operation : String)
    (h : TakesCode taken s (s.run action).2) :
    TakesCode taken s (s.run (backend.reported operation action)).2 := by
  rw [run_reported]
  exact ⟨(reporting_codes _ _).1.trans h.1, (reporting_codes _ _).2.trans h.2⟩

/-- What a call takes of the codes is told by the records. -/
theorem Holds.call_takesCode (h : s.Holds r) (mutation : Mutation) :
    TakesCode (r.takesCode mutation) s (s.call mutation).2 := by
  cases mutation with
  | createOrganization tenant draft => exact (keepsCodes_createOrganization tenant draft).takesCode
  | createSector tenant org label parentCode =>
    rw [Session.call, Mutation.perform, Backend.createSector, Records.takesCode]
    exact takesCode_reported _ (takesCode_addSector h label parentCode .active)
  | createSectorIn tenant code draft =>
    have hfind := OrganizationRequest.answer_findByCode h.database tenant code
    refine takesCode_reported _ ?_
    rw [Backend.findOrganization, bind_assoc, run_bind_ok (run_askOrganizations_ok hfind),
      run_bind, run_found, Records.takesCode]
    cases r.organization? tenant code with
    | none => exact ⟨rfl, rfl⟩
    | some o =>
      have hadd : TakesCode (r.places tenant o.id draft.label draft.parentCode) s
          (s.run (backend.addSector tenant o.id draft.label draft.parentCode draft.status)).2 :=
        takesCode_addSector h draft.label draft.parentCode draft.status
      rw [Option.any_some]
      exact hadd.bind fun id => keepsCodes_findSector tenant id
  | renameSector tenant id label => exact (keepsCodes_renameSector tenant id label).takesCode
  | deleteSector tenant id => exact (keepsCodes_deleteSector tenant id).takesCode
  | renameOrganization tenant code label =>
    exact (keepsCodes_renameOrganization tenant code label).takesCode
  | deleteOrganization tenant code => exact (keepsCodes_deleteOrganization tenant code).takesCode

end Session

end SectorForest
